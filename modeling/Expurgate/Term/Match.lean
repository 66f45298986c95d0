import Expurgate.Term.Basic

/-!
Matches of a term and their parts. Positions count characters; `byteOffset` turns one into the count
of bytes before it.
-/

namespace Expurgate

open Unicode

/-- A stretch of a text, from one position up to another. Positions count characters from the
beginning of the text, and where bytes are told they are worked out at the end. -/
structure Span where
  start : Nat
  stop : Nat
  deriving Repr, DecidableEq

def Span.text (s : Span) (h : Array Char) : List Char := (h.extract s.start s.stop).toList

/-- The bytes of a text before a position. -/
def byteOffset (h : Array Char) (p : Nat) : Nat :=
  h.foldl (fun n c => n + c.utf8Size) 0 0 p

/-- A match, divided as the shape of the term says. The content is what is replaced. The boundaries
around it were matched to find it and are put back. -/
inductive MatchParts where
  | plain (raw : Span)
  | bounded (raw leading content trailing : Span)
  deriving Repr, DecidableEq

namespace MatchParts

def raw : MatchParts → Span
  | plain raw => raw
  | bounded raw _ _ _ => raw

def content : MatchParts → Span
  | plain raw => raw
  | bounded _ _ content _ => content

/-- The content without the white space around it. A plain match of a term that is to be removed
takes a space along on each side, and this is what allowed words are compared with. -/
def word (m : MatchParts) (h : Array Char) : Span :=
  let text := m.content.text h
  let start := m.content.start + (text.takeWhile isSpace).length
  ⟨start, start + (trim text).length⟩

end MatchParts

/-- Divides a match. A group that took no part counts as empty at the beginning of the match. A
plain match has no groups and is all content. -/
def Term.split (t : Term) (c : Captures) : Option MatchParts :=
  let raw : Span := ⟨c.start, c.stop⟩
  let group (i : Nat) : Option Span := (c.group? i).map fun g => ⟨g.1, g.2⟩
  let nothing : Span := ⟨c.start, c.start⟩
  match t.shape with
  | .plain => some (.plain raw)
  | .bounded =>
    (group 2).map fun content =>
      .bounded raw ((group 1).getD nothing) content ((group 3).getD nothing)

/-- The successive matches of a term in a text. -/
def Term.occurrences (t : Term) (h : Array Char) : List Captures := t.program.findAll h

end Expurgate
