import Expurgate.Unicode.Table.Folding

/-!
Simple case folding. Two characters match without regard to case when they fold to the same
character; the characters that do so with a given one are its orbit.
-/

namespace Expurgate.Unicode

/-- The common form of the characters that differ in case only. It is simple folding, one character
for one, so a letter that would fold to two stays. -/
def fold (n : Nat) : Nat := CaseRun.map Table.folding n

/-- All code points that fold to the same one as `n` does. With a set every orbit of its members is
matched. -/
def orbit (n : Nat) : List Nat :=
  (fold n :: Table.folding.filterMap fun r => r.preimage? (fold n)).filter fun m =>
    fold m = fold n

/-- Whether two characters are equal up to case. -/
def sameFold (c d : Char) : Bool := fold c.toNat = fold d.toNat

/-- Every code point that folds to another one, with that one. -/
def foldingPairs : List (Nat × Nat) :=
  Table.folding.flatMap fun r => r.members.map fun n => (n, r.target + (n - r.first))

end Expurgate.Unicode
