import Expurgate.Unicode.CharClass
import Expurgate.Unicode.Folding

/-!
The sets of characters that a single step of a match may read.
-/

namespace Expurgate

open Unicode

/-- A set of characters, given by its ranges of code points. The sets that are made here are kept in
order, so a character is looked up by halves. -/
structure CharSet where
  ranges : Ranges
  deriving Repr, DecidableEq

namespace CharSet

def contains (s : CharSet) (c : Char) : Bool := s.ranges.contains c.toNat

def empty : CharSet := ⟨[]⟩

def any : CharSet := ⟨[(0, Ranges.lastCodePoint)]⟩

def single (c : Char) : CharSet := ⟨[(c.toNat, c.toNat)]⟩

def range (first last : Char) : CharSet := ⟨Ranges.ofList [(first.toNat, last.toNat)]⟩

/-- A character together with those that differ from it in case only. -/
def letter (c : Char) : CharSet := ⟨Ranges.ofList ((orbit c.toNat).map fun n => (n, n))⟩

def word : CharSet := ⟨Table.word⟩

def digit : CharSet := ⟨Table.decimal⟩

def space : CharSet := ⟨Table.space⟩

def union (s t : CharSet) : CharSet := ⟨s.ranges.union t.ranges⟩

def inter (s t : CharSet) : CharSet := ⟨s.ranges.inter t.ranges⟩

def diff (s t : CharSet) : CharSet := ⟨s.ranges.diff t.ranges⟩

def symmDiff (s t : CharSet) : CharSet := ⟨s.ranges.symmDiff t.ranges⟩

def complement (s : CharSet) : CharSet := ⟨s.ranges.complement⟩

/-- The largest set whose members are put through `orbit` one by one. -/
def smallCount : Nat := 256

/-- The set closed under differences of case. A large set is closed by going through the characters
that fold at all, of which there are far fewer. -/
def caseless (s : CharSet) : CharSet :=
  let added :=
    if s.ranges.count ≤ smallCount then s.ranges.members.flatMap orbit
    else foldingPairs.flatMap fun (n, m) =>
      if (orbit m).any s.ranges.contains then [n, m] else []
  ⟨s.ranges.union (added.map fun n => (n, n))⟩

def isAscii (s : CharSet) : Bool := s.ranges.all fun r => r.2 < 0x80

end CharSet

end Expurgate
