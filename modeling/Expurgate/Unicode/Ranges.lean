/-!
Sets of code points written as ranges. Membership reads the ranges in ascending order and stops at
the first one that starts beyond the code point, so an early character is decided after a few steps
however long the table is.
-/

namespace Expurgate.Unicode

/-- Inclusive ranges of code points, ascending and disjoint. That they are so is not part of the
type. It is checked of the tables, and kept by the operations. -/
abbrev Ranges := List (Nat × Nat)

namespace Ranges

def contains : Ranges → Nat → Bool
  | [], _ => false
  | (first, last) :: rest, n =>
    if n < first then false else if n ≤ last then true else contains rest n

def lastCodePoint : Nat := 0x10FFFF

/-- Joins ranges that overlap or touch; the list must ascend by its first entries. -/
def join : Ranges → Ranges
  | [] => []
  | [r] => [r]
  | (a, b) :: (c, d) :: rest =>
    if c ≤ b + 1 then join ((a, max b d) :: rest) else (a, b) :: join ((c, d) :: rest)
termination_by l => l.length

/-- Any list of ranges, brought into ascending and disjoint form. -/
def ofList (l : List (Nat × Nat)) : Ranges :=
  join ((l.filter fun r => r.1 ≤ r.2).mergeSort fun a b => a.1 ≤ b.1)

def union (a b : Ranges) : Ranges := ofList (a ++ b)

/-- The code points from `next` on that lie in no range. -/
def complementFrom (next : Nat) : Ranges → Ranges
  | [] => if next ≤ lastCodePoint then [(next, lastCodePoint)] else []
  | (first, last) :: rest =>
    if next < first then (next, first - 1) :: complementFrom (last + 1) rest
    else complementFrom (last + 1) rest

def complement (a : Ranges) : Ranges := complementFrom 0 a

def inter (a b : Ranges) : Ranges := complement (union (complement a) (complement b))

def diff (a b : Ranges) : Ranges := inter a (complement b)

def symmDiff (a b : Ranges) : Ranges := union (diff a b) (diff b a)

def count (a : Ranges) : Nat := a.foldl (fun n r => n + (r.2 + 1 - r.1)) 0

def members (a : Ranges) : List Nat :=
  a.flatMap fun r => (List.range (r.2 + 1 - r.1)).map (r.1 + ·)

end Ranges

end Expurgate.Unicode
