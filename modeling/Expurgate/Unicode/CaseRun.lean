/-!
Case mappings written as runs. A run is a sequence of code points with one distance between
neighbours, all of which move by the same amount.
-/

namespace Expurgate.Unicode

/-- The code points `first`, `first + stride`, … up to `last`; the first goes to `target` and the
others keep their distance from it. -/
structure CaseRun where
  first : Nat
  last : Nat
  stride : Nat
  target : Nat

namespace CaseRun

/-- Where the run takes a code point, if the code point belongs to it. A run has a stride, because
capital and small letters take turns in many alphabets. -/
def image? (r : CaseRun) (n : Nat) : Option Nat :=
  if r.first ≤ n ∧ n ≤ r.last ∧ (n - r.first) % r.stride = 0 then
    some (r.target + (n - r.first))
  else
    none

/-- The code point of the run that goes to `t`, if there is one. -/
def preimage? (r : CaseRun) (t : Nat) : Option Nat :=
  let n := r.first + (t - r.target)
  if r.image? n = some t then some n else none

/-- The mapping that a list of runs, ascending and disjoint, describes. Code points outside every
run stay. -/
def map : List CaseRun → Nat → Nat
  | [], n => n
  | r :: rest, n =>
    if n < r.first then n else
      match r.image? n with
      | some m => m
      | none => map rest n

def members (r : CaseRun) : List Nat :=
  (List.range ((r.last - r.first) / r.stride + 1)).map fun i => r.first + i * r.stride

end CaseRun

end Expurgate.Unicode
