import Expurgate.Regex.Program

/-!
Searching a text for a match. The search walks depth first through the pairs of an instruction and
a position, following preferred branches first, and enters no pair twice: what a pair leads to does
not depend on how it was reached, so a pair that was left without success would fail again. The
walk therefore takes time proportional to the program times the text, and a loop whose body reads
nothing comes to an end. Positions count characters.
-/

namespace Expurgate

open Unicode

/-- The pairs entered so far, as flags in the order of their numbers. What was entered once and did
not succeed will not do so later, so it is not entered again. -/
structure Visited where
  flags : Array Bool

namespace Visited

def empty : Visited := ⟨#[]⟩

def contains (v : Visited) (n : Nat) : Bool := v.flags.getD n false

def extend (flags : Array Bool) : Nat → Array Bool
  | 0 => flags
  | n + 1 => extend (flags.push false) n

def insert (v : Visited) (n : Nat) : Visited :=
  let flags := extend v.flags (n + 1 - v.flags.size)
  ⟨flags.setIfInBounds n true⟩

/-- Flags beyond the end are read as unset, so to add unset ones changes nothing that is read. -/
theorem getD_extend (flags : Array Bool) (n k : Nat) :
    (extend flags n).getD k false = flags.getD k false := by
  induction n generalizing flags with
  | zero => rfl
  | succ n ih =>
    rw [extend, ih]
    simp only [Array.getD_eq_getD_getElem?, Array.getElem?_push]
    split <;> simp_all

theorem size_extend (flags : Array Bool) (n : Nat) : (extend flags n).size = flags.size + n := by
  induction n generalizing flags with
  | zero => rfl
  | succ n ih => rw [extend, ih]; simp; omega

/-- After an insertion the new pair and the old ones are there, and no others. -/
theorem contains_insert (v : Visited) (n k : Nat) :
    (v.insert n).contains k = (n == k || v.contains k) := by
  have hsize := size_extend v.flags (n + 1 - v.flags.size)
  have hget := getD_extend v.flags (n + 1 - v.flags.size) k
  simp only [insert, contains, Array.getD_eq_getD_getElem?, Array.getElem?_setIfInBounds] at *
  by_cases h : n = k
  · subst h
    have : n < v.flags.size + (n + 1 - v.flags.size) := by omega
    simp [hsize, this]
  · simp [h, hget]

end Visited

/-- A place the walk has still to enter: an instruction, a position, and the positions marked on the
way there, the latest first. -/
structure Thread where
  pc : Nat
  pos : Nat
  marks : List (Nat × Nat)
  deriving Repr, DecidableEq

namespace Program

/-- Where a thread goes next, the preferred branch first. Where a thread has nowhere to go the list
is empty. -/
def step (p : Program) (h : Array Char) (t : Thread) : List Thread :=
  match p.code[t.pc]? with
  | some (.set s next) =>
    match h[t.pos]? with
    | some c => if s.contains c then [⟨next, t.pos + 1, t.marks⟩] else []
    | none => []
  | some (.look l ascii next) =>
    if l.holds (if ascii then isAsciiWord else isWord) h t.pos then [⟨next, t.pos, t.marks⟩] else []
  | some (.mark slot next) => [⟨next, t.pos, (slot, t.pos) :: t.marks⟩]
  | some (.split first second) => [⟨first, t.pos, t.marks⟩, ⟨second, t.pos, t.marks⟩]
  | some .accept | some .fail | none => []

/-- The number of a pair, counted from position `base` on. -/
def pairNumber (p : Program) (base : Nat) (t : Thread) : Nat :=
  (t.pos - base) * p.code.size + t.pc

/-- Walks from the threads of a stack until one accepts. The first argument bounds the number of
threads taken from the stack. -/
def walk (p : Program) (h : Array Char) (base : Nat) :
    Nat → Visited → List Thread → Option Thread × Visited
  | 0, v, _ | _, v, [] => (none, v)
  | fuel + 1, v, t :: stack =>
    if v.contains (p.pairNumber base t) then walk p h base fuel v stack
    else if p.code[t.pc]? = some .accept then (some t, v)
    else walk p h base fuel (v.insert (p.pairNumber base t)) (p.step h t ++ stack)

/-- Enough for a walk: every pair pushes at most two others. By it the walk is a structural
recursion, and no search comes to the end of it. -/
def walkBound (p : Program) (h : Array Char) (base : Nat) : Nat :=
  2 * (p.code.size * (h.size + 1 - base)) + 2

end Program

/-- A match: the stretch it covers and the positions marked within it. -/
structure Captures where
  start : Nat
  stop : Nat
  marks : List (Nat × Nat)
  deriving Repr, DecidableEq

namespace Captures

def slot? (c : Captures) (slot : Nat) : Option Nat :=
  (c.marks.find? (·.1 = slot)).map (·.2)

def group? (c : Captures) (i : Nat) : Option (Nat × Nat) :=
  match c.slot? (2 * i), c.slot? (2 * i + 1) with
  | some a, some b => some (a, b)
  | _, _ => none

end Captures

namespace Program

/-- The first match that starts at one of the `n` positions from `start` on. An earlier start is
preferred to all that could be found from a later one. -/
def findWithin (p : Program) (h : Array Char) (base : Nat) :
    (n start : Nat) → Visited → Option Captures
  | 0, _, _ => none
  | n + 1, start, v =>
    match walk p h base (p.walkBound h base) v [⟨p.entry, start, []⟩] with
    | (some t, _) => some ⟨start, t.pos, t.marks⟩
    | (none, v) => findWithin p h base n (start + 1) v

/-- The leftmost match that starts at position `start` or later. -/
def findFrom (p : Program) (h : Array Char) (start : Nat) : Option Captures :=
  p.findWithin h start (h.size + 1 - start) start .empty

/-- The next match after one that ended at `start`. An empty match may not touch the match before
it, which `last` tells; the search then goes on behind the next character. -/
def findNext (p : Program) (h : Array Char) (start : Nat) (last : Option Nat) : Option Captures :=
  match p.findFrom h start with
  | some c =>
    if c.start = c.stop ∧ last = some c.stop then p.findFrom h (start + 1) else some c
  | none => none

/-- The matches from `start` on, at most `n` of them. -/
def matchesFrom (p : Program) (h : Array Char) : (n start : Nat) → Option Nat → List Captures
  | 0, _, _ => []
  | n + 1, start, last =>
    match p.findNext h start last with
    | some c => c :: matchesFrom p h n c.stop (some c.stop)
    | none => []

/-- The successive matches in a text, none of which overlaps another. Behind an empty match the
search goes on from the same place, and does not accept another empty one there. -/
def findAll (p : Program) (h : Array Char) : List Captures :=
  p.matchesFrom h (h.size + 2) 0 none

/-- The first of these matches that is wanted, unless one that is too far comes before it. -/
def seekFrom (p : Program) (h : Array Char) (tooFar wanted : Captures → Bool) :
    (n start : Nat) → Option Nat → Option Captures
  | 0, _, _ => none
  | n + 1, start, last =>
    match p.findNext h start last with
    | none => none
    | some c =>
      if tooFar c then none
      else if wanted c then some c
      else seekFrom p h tooFar wanted n c.stop (some c.stop)

/-- A search that ends early finds what a look through all matches does. -/
theorem seekFrom_eq (p : Program) (h : Array Char) (tooFar wanted : Captures → Bool)
    (n start : Nat) (last : Option Nat) :
    p.seekFrom h tooFar wanted n start last =
      ((p.matchesFrom h n start last).takeWhile (!tooFar ·)).find? wanted := by
  induction n generalizing start last with
  | zero => rfl
  | succ n ih =>
    simp only [seekFrom, matchesFrom]
    cases p.findNext h start last with
    | none => rfl
    | some c =>
      by_cases far : tooFar c
      · simp [far]
      · by_cases want : wanted c <;> simp [far, want, ih]

end Program

end Expurgate
