import Expurgate.Regex.CharSet

/-!
Regular expressions as trees. A tree says which stretches of a text it matches and, where there are
several ways to match, which of them is preferred: the left branch of an alternative comes first,
and a greedy repetition prefers another round to leaving.
-/

namespace Expurgate

open Unicode

/-- Conditions on the place between two characters. None of them takes a character. They only ask
what stands on either side. -/
inductive Look where
  | start
  | stop
  | lineStart
  | lineStop
  | lineStartCRLF
  | lineStopCRLF
  | wordEdge
  | notWordEdge
  | wordStart
  | wordStop
  | wordStartHalf
  | wordStopHalf
  deriving Repr, DecidableEq

def charBefore (h : Array Char) (p : Nat) : Option Char :=
  if p = 0 then none else h[p - 1]?

namespace Look

/-- Whether the condition holds at position `p` of a text; `isWord` says what a word is made of. -/
def holds (l : Look) (isWord : Char → Bool) (h : Array Char) (p : Nat) : Bool :=
  let before := charBefore h p
  let after := h[p]?
  let wordBefore := before.any isWord
  let wordAfter := after.any isWord
  match l with
  | start => p = 0
  | stop => p = h.size
  | lineStart => p = 0 || before = some '\n'
  | lineStop => p = h.size || after = some '\n'
  | lineStartCRLF =>
    p = 0 || before = some '\n' || (before = some '\r' && after ≠ some '\n')
  | lineStopCRLF =>
    p = h.size || after = some '\r' || (after = some '\n' && before ≠ some '\r')
  | wordEdge => wordBefore ≠ wordAfter
  | notWordEdge => wordBefore = wordAfter
  | wordStart => !wordBefore && wordAfter
  | wordStop => wordBefore && !wordAfter
  | wordStartHalf => !wordBefore
  | wordStopHalf => !wordAfter

end Look

def isAsciiWord (c : Char) : Bool := c.isAlphanum || c == '_'

/-- A regular expression. `loop` stands for one or more rounds of its body. It has no upper bounds
of rounds. Those are written out when a pattern is given its meaning. -/
inductive Regex where
  | empty
  | set (s : CharSet)
  | look (l : Look) (ascii : Bool)
  | capture (index : Nat) (r : Regex)
  | seq (a b : Regex)
  | alt (a b : Regex)
  | option (greedy : Bool) (r : Regex)
  | loop (greedy : Bool) (r : Regex)
  deriving Repr, DecidableEq

namespace Regex

def star (greedy : Bool) (r : Regex) : Regex := option greedy (loop greedy r)

def sequence : List Regex → Regex
  | [] => empty
  | [r] => r
  | r :: rest => seq r (sequence rest)

/-- Whether the expression reads no character whichever way it matches. -/
def isZeroWidth : Regex → Bool
  | empty | look _ _ => true
  | set _ => false
  | capture _ r | option _ r | loop _ r => r.isZeroWidth
  | seq a b | alt a b => a.isZeroWidth && b.isZeroWidth

/-- Up to `n` further rounds, each inside the one before it. -/
def upTo (greedy : Bool) (r : Regex) : Nat → Regex
  | 0 => empty
  | 1 => option greedy r
  | n + 1 => option greedy (seq r (upTo greedy r n))

/-- Between `min` and `max` rounds, without an upper bound where `max` is absent. -/
def rounds (min : Nat) (max : Option Nat) (greedy : Bool) (r : Regex) : Regex :=
  match max with
  | none =>
    if min = 0 then star greedy r
    else sequence (List.replicate (min - 1) r ++ [loop greedy r])
  | some max =>
    if max ≤ min then sequence (List.replicate min r)
    else sequence (List.replicate min r ++ [upTo greedy r (max - min)])

/-- Repetition. An expression that reads nothing gains nothing from a second round. Its further
rounds are left out then, which changes nothing about what is matched. -/
def repetition (min : Nat) (max : Option Nat) (greedy : Bool) (r : Regex) : Regex :=
  if r.isZeroWidth then rounds (Nat.min min 1) (some ((max.getD 1).min 1)) greedy r
  else rounds min max greedy r

end Regex

end Expurgate
