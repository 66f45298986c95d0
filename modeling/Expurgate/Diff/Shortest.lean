import Expurgate.Diff.Edit

/-!
A shortest list of edits. Think of the two lists as the sides of a grid in which an edit is a step
along one side and a shared item a diagonal step that costs nothing. Paths are grown from both
corners at once, one edit longer in each round, until they meet; the meeting point divides the
problem in two.
-/

namespace Expurgate.Diff

variable {α : Type} [DecidableEq α]

/-- The number of diagonal steps from a point of the grid. -/
def diagonal (a b : Array α) (x y : Nat) : Nat :=
  if h : x < a.size ∧ y < b.size then
    if a[x] = b[y] then diagonal a b (x + 1) (y + 1) + 1 else 0
  else 0
termination_by a.size - x

/-- The last diagonal run of a path with a given number of edits. The column is that of the grid's
first side, and the row is `column - offset`. -/
structure Reach where
  /-- How many more steps along the first side than along the second one. -/
  offset : Int
  /-- The column where the run begins. -/
  first : Nat
  /-- The column where it ends. -/
  last : Nat

def Reach.row (r : Reach) (column : Nat) : Nat := (column - r.offset).toNat

/-- The furthest paths with one more edit than those given, by rising offset. -/
def extend (a b : Array α) (before : Array Reach) : Array Reach :=
  let d := before.size
  ((List.range (d + 1)).map fun (i : Nat) =>
    let offset : Int := 2 * i - d
    let below := (before[i - 1]?.map (·.last)).getD 0
    let above := (before[i]?.map (·.last)).getD 0
    let column : Nat := if i = 0 ∨ (i ≠ d ∧ below < above) then above else below + 1
    let run := if offset ≤ column then diagonal a b column (column - offset).toNat else 0
    ⟨offset, column, column + run⟩).toArray

def reachAt (l : Array Reach) (offset : Int) : Option Reach :=
  let i := offset + l.size - 1
  if 0 ≤ i then l[i.toNat / 2]? else none

/-- The first of the paths, by falling offset, that meets one from the opposite corner. -/
def meeting (a b : Array α) (paths opposite : Array Reach) : Option Reach :=
  paths.toList.reverse.find? fun r =>
    let facing : Int := a.size - b.size - r.offset
    facing.natAbs < opposite.size &&
      (reachAt opposite facing).any fun o => a.size ≤ r.last + o.last

/-- Looks for the point where the paths of growing length from the two corners meet. With as many
rounds as there are items the search succeeds; otherwise all items are exchanged. -/
def meet (a b backA backB : Array α) : Nat → Array Reach → Array Reach → Nat × Nat
  | 0, _, _ => (a.size, 0)
  | rounds + 1, ahead, back =>
    let ahead' := extend a b ahead
    let crossing := if (a.size + b.size) % 2 = 1 then meeting a b ahead' back else none
    match crossing with
    | some r => (r.first, r.row r.first)
    | none =>
      let back' := extend backA backB back
      let crossing := if (a.size + b.size) % 2 = 0 then meeting a b back' ahead' else none
      match crossing with
      | some r => (a.size - r.last, b.size - r.row r.last)
      | none => meet a b backA backB rounds ahead' back'

/-- A point that a shortest path passes through. It is found from both corners at once, which is
what makes the search short in space. -/
def midpoint (a b : List α) : Nat × Nat :=
  meet a.toArray b.toArray a.reverse.toArray b.reverse.toArray (a.length + b.length) #[] #[]

/-- A shortest list of edits from one list to another, found in at most `fuel` divisions. Each
division finds a point of a shortest path and leaves two smaller problems. -/
def divide : Nat → List α → List α → List (Edit α)
  | 0, a, b => Edit.run .delete a ++ Edit.run .insert b
  | fuel + 1, a, b =>
    let (ahead, a, b) := splitCommon a b
    let (back, a, b) := splitCommon a.reverse b.reverse
    let (a, b) := (a.reverse, b.reverse)
    let between :=
      if a.isEmpty then Edit.run .insert b
      else if b.isEmpty then Edit.run .delete a
      else
        let (x, y) := midpoint a b
        divide fuel (a.take x) (b.take y) ++ divide fuel (a.drop x) (b.drop y)
    Edit.run .keep ahead ++ between ++ Edit.run .keep back.reverse

/-- A shortest list of edits from one list to another. -/
def shortest (a b : List α) : List (Edit α) := divide (a.length + b.length + 1) a b

end Expurgate.Diff
