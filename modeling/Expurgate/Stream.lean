import Expurgate.Engine.Basic
import Expurgate.Lines

/-!
Expurgating line by line. A line that is no text ends the work, with what was written before it
kept.
-/

namespace Expurgate

/-- A line of bytes without its ending, which is a line feed that may follow a carriage return. One
of each is dropped at most. -/
def lineContent (bytes : List UInt8) : List UInt8 :=
  if bytes.getLast? = some 10 then dropEnding 13 bytes.dropLast else bytes

def decodeText (bytes : List UInt8) : Option String := String.fromUTF8? ⟨bytes.toArray⟩

/-- The lines of a stream of bytes; those that are no text come out as nothing. They are told apart
before anything is decoded, so a line that is no text does not spoil its neighbours. -/
def streamLines (bytes : List UInt8) : List (Option String) :=
  (linesWithBreaks 10 bytes).map fun l => decodeText (lineContent l)

structure Streamed where
  output : String
  matched : List TermMatch
  log : List LogRecord
  /-- Why the stream was not read to its end. -/
  fault : Option FileFault

/-- Expurgates the lines of a stream up to the first one that is no text. The lines before it are
written by then, and stay so. -/
def Engine.stream (profile : ProfileId) : List (Option String) → Engine → Streamed × Engine
  | [], e => (⟨"", [], [], none⟩, e)
  | none :: _, e => (⟨"", [], [], some .invalidText⟩, e)
  | some text :: rest, e =>
    let (done, e) := e.expurgate text profile true
    let (others, e) := Engine.stream profile rest e
    (⟨line done.outcome.filtered ++ others.output, done.outcome.matched ++ others.matched,
      done.log ++ others.log, others.fault⟩, e)

end Expurgate
