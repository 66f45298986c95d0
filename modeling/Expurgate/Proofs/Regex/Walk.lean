import Expurgate.Regex.Search
import Mathlib.Tactic.Common

/-! The depth-first walk. A place is an instruction together with a position. Main statement: from
a place all of whose paths end, the walk returns the preferred accepting path, and if there is none
it leaves the rest of its stack as it was. What was entered before never changes the answer. -/
namespace Expurgate.Program

variable {p : Program} {h : Array Char} {base : Nat}

/-- The places that follow a place. Marks have no influence on them. -/
def successors (p : Program) (h : Array Char) (pc pos : Nat) : List (Nat × Nat) :=
  (p.step h ⟨pc, pos, []⟩).map fun t => (t.pc, t.pos)

theorem map_step (t : Thread) :
    (p.step h t).map (fun u => (u.pc, u.pos)) = p.successors h t.pc t.pos := by
  unfold successors step
  cases p.code[t.pc]? with
  | none => rfl
  | some i =>
      cases i with
      | set s next =>
          cases h[t.pos]? with
          | none => rfl
          | some c => by_cases hc : s.contains c <;> simp [hc]
      | look l ascii next =>
          by_cases hl : l.holds (if ascii then isAsciiWord else Unicode.isWord) h t.pos <;>
            simp [hl]
      | _ => rfl

theorem mem_successors_of_mem_step {t u : Thread} (hu : u ∈ p.step h t) :
    (u.pc, u.pos) ∈ p.successors h t.pc t.pos := by
  rw [← map_step]
  exact List.mem_map_of_mem hu

theorem exists_mem_step {t : Thread} {pc pos : Nat}
    (hMem : (pc, pos) ∈ p.successors h t.pc t.pos) : ∃ u ∈ p.step h t, u.pc = pc ∧ u.pos = pos := by
  rw [← map_step] at hMem
  obtain ⟨u, hu, hEq⟩ := List.mem_map.mp hMem
  exact ⟨u, hu, by simpa using hEq⟩

/-- Everything that a step can do: read a character of a set, pass a condition, set a mark, or take
either branch of a split. -/
theorem mem_step_cases {t u : Thread} (hu : u ∈ p.step h t) :
    (∃ s next c, p.code[t.pc]? = some (.set s next) ∧ h[t.pos]? = some c ∧ s.contains c ∧
      u = ⟨next, t.pos + 1, t.marks⟩) ∨
    (∃ l ascii next, p.code[t.pc]? = some (.look l ascii next) ∧
      l.holds (if ascii then isAsciiWord else Unicode.isWord) h t.pos ∧
      u = ⟨next, t.pos, t.marks⟩) ∨
    (∃ slot next, p.code[t.pc]? = some (.mark slot next) ∧
      u = ⟨next, t.pos, (slot, t.pos) :: t.marks⟩) ∨
    (∃ first second, p.code[t.pc]? = some (.split first second) ∧
      (u = ⟨first, t.pos, t.marks⟩ ∨ u = ⟨second, t.pos, t.marks⟩)) := by
  cases hCode : p.code[t.pc]? with
  | none => simp [step, hCode] at hu
  | some i =>
      cases i with
      | set s next =>
          cases hc : h[t.pos]? with
          | none => simp [step, hCode, hc] at hu
          | some c =>
              simp only [step, hCode, hc, List.mem_ite_nil_right, List.mem_singleton] at hu
              exact .inl ⟨s, next, c, rfl, rfl, hu.1, hu.2⟩
      | look l ascii next =>
          simp only [step, hCode, List.mem_ite_nil_right, List.mem_singleton] at hu
          exact .inr (.inl ⟨l, ascii, next, rfl, hu.1, hu.2⟩)
      | mark slot next =>
          simp only [step, hCode, List.mem_singleton] at hu
          exact .inr (.inr (.inl ⟨slot, next, rfl, hu⟩))
      | split first second =>
          simp only [step, hCode, List.mem_cons, List.not_mem_nil, or_false] at hu
          exact .inr (.inr (.inr ⟨first, second, rfl, hu⟩))
      | accept => simp [step, hCode] at hu
      | fail => simp [step, hCode] at hu

/-- A step stays within the text and never goes back in it. -/
theorem pos_of_mem_step {t u : Thread} (hu : u ∈ p.step h t) (hPos : t.pos ≤ h.size) :
    t.pos ≤ u.pos ∧ u.pos ≤ h.size := by
  rcases mem_step_cases hu with ⟨s, next, c, -, hc, -, rfl⟩ | ⟨l, ascii, next, -, -, rfl⟩ |
    ⟨slot, next, -, rfl⟩ | ⟨first, second, -, rfl | rfl⟩
  · obtain ⟨hLt, -⟩ := Array.getElem?_eq_some_iff.mp hc
    exact ⟨Nat.le_succ _, hLt⟩
  all_goals exact ⟨Nat.le_refl _, hPos⟩

theorem length_step_le (t : Thread) : (p.step h t).length ≤ 2 := by
  cases hCode : p.code[t.pc]? with
  | none => simp [step, hCode]
  | some i =>
      cases i with
      | set s next =>
          cases hc : h[t.pos]? with
          | none => simp [step, hCode, hc]
          | some c => by_cases hs : s.contains c <;> simp [step, hCode, hc, hs]
      | look l ascii next =>
          by_cases hl : l.holds (if ascii then isAsciiWord else Unicode.isWord) h t.pos <;>
            simp [step, hCode, hl]
      | _ => simp [step, hCode]

theorem pos_of_mem_successors {pc pos pc' pos' : Nat}
    (hMem : (pc', pos') ∈ p.successors h pc pos) (hPos : pos ≤ h.size) :
    pos ≤ pos' ∧ pos' ≤ h.size := by
  obtain ⟨u, hu, _, rfl⟩ := exists_mem_step (t := ⟨pc, pos, []⟩) hMem
  exact pos_of_mem_step hu hPos

theorem step_of_accept {t : Thread} (hCode : p.code[t.pc]? = some .accept) : p.step h t = [] := by
  simp [step, hCode]

/-- An accepting instruction is reached from a place by this number of steps. -/
inductive Accepts (p : Program) (h : Array Char) : Nat → Nat → Nat → Prop where
  | here {pc pos : Nat} (hCode : p.code[pc]? = some .accept) : Accepts p h 0 pc pos
  | step {n pc pos pc' pos' : Nat} (hNext : (pc', pos') ∈ p.successors h pc pos)
      (rest : Accepts p h n pc' pos') : Accepts p h (n + 1) pc pos

/-- Some path from the place leads to acceptance. -/
def Succeeds (p : Program) (h : Array Char) (pc pos : Nat) : Prop := ∃ n, p.Accepts h n pc pos

theorem Succeeds.of_step {pc pos pc' pos' : Nat} (hNext : (pc', pos') ∈ p.successors h pc pos)
    (rest : p.Succeeds h pc' pos') : p.Succeeds h pc pos :=
  rest.elim fun n hn => ⟨n + 1, .step hNext hn⟩

theorem succeeds_iff_of_not_accept {pc pos : Nat} (hCode : p.code[pc]? ≠ some .accept) :
    p.Succeeds h pc pos ↔ ∃ q ∈ p.successors h pc pos, p.Succeeds h q.1 q.2 := by
  constructor
  · rintro ⟨n, hn⟩
    cases hn with
    | here hAccept => exact absurd hAccept hCode
    | step hNext rest => exact ⟨_, hNext, _, rest⟩
  · rintro ⟨q, hNext, rest⟩
    exact .of_step hNext rest

/-- The accepting path that takes the first successful branch wherever there is a choice, with the
number of its steps. -/
inductive Prefers (p : Program) (h : Array Char) : Nat → Thread → Thread → Prop where
  | here {t : Thread} (hCode : p.code[t.pc]? = some .accept) : Prefers p h 0 t t
  | step {n : Nat} {t u r : Thread} {before after : List Thread}
      (hStep : p.step h t = before ++ u :: after)
      (hBefore : ∀ w ∈ before, ¬p.Succeeds h w.pc w.pos)
      (rest : Prefers p h n u r) : Prefers p h (n + 1) t r

theorem Prefers.succeeds {n : Nat} {t r : Thread} (path : p.Prefers h n t r) :
    p.Succeeds h t.pc t.pos := by
  induction path with
  | here hCode => exact ⟨0, .here hCode⟩
  | step hStep _ _ ih => exact .of_step (mem_successors_of_mem_step (by simp [hStep])) ih

/-- Every path from the place ends, and stays within the program and the text. -/
inductive Halts (p : Program) (h : Array Char) : Nat → Nat → Prop where
  | intro {pc pos : Nat} (hPc : pc < p.code.size) (hPos : pos ≤ h.size)
      (next : ∀ pc' pos', (pc', pos') ∈ p.successors h pc pos → Halts p h pc' pos') :
      Halts p h pc pos

/-- One place can be reached from another. -/
inductive Leads (p : Program) (h : Array Char) : Nat → Nat → Nat → Nat → Prop where
  | refl (pc pos : Nat) : Leads p h pc pos pc pos
  | step {pc pos pc' pos' pc'' pos'' : Nat} (hNext : (pc', pos') ∈ p.successors h pc pos)
      (rest : Leads p h pc' pos' pc'' pos'') : Leads p h pc pos pc'' pos''

theorem Leads.snoc {pc pos pc' pos' pc'' pos'' : Nat} (path : p.Leads h pc pos pc' pos')
    (hNext : (pc'', pos'') ∈ p.successors h pc' pos') : p.Leads h pc pos pc'' pos'' := by
  induction path with
  | refl => exact .step hNext (.refl _ _)
  | step hFirst _ ih => exact .step hFirst (ih hNext)

theorem Leads.pos_le {pc pos pc' pos' : Nat} (path : p.Leads h pc pos pc' pos')
    (hPos : pos ≤ h.size) : pos ≤ pos' := by
  induction path with
  | refl => exact Nat.le_refl _
  | step hNext _ ih =>
      have hNext := pos_of_mem_successors hNext hPos
      exact Nat.le_trans hNext.1 (ih hNext.2)

theorem Halts.pc_lt {pc pos : Nat} (hHalts : p.Halts h pc pos) : pc < p.code.size := by
  cases hHalts
  assumption

theorem Halts.pos_le {pc pos : Nat} (hHalts : p.Halts h pc pos) : pos ≤ h.size := by
  cases hHalts
  assumption

theorem Halts.of_leads {pc pos pc' pos' : Nat} (hHalts : p.Halts h pc pos)
    (path : p.Leads h pc pos pc' pos') : p.Halts h pc' pos' := by
  induction path with
  | refl => exact hHalts
  | step hNext _ ih =>
      cases hHalts with
      | intro _ _ next => exact ih (next _ _ hNext)

/-- Where every path ends no place leads back to itself. -/
theorem Halts.not_leads {pc pos : Nat} (hHalts : p.Halts h pc pos) :
    ∀ pc' pos', (pc', pos') ∈ p.successors h pc pos → ¬p.Leads h pc' pos' pc pos := by
  induction hHalts with
  | intro _ _ _ ih =>
      intro pc' pos' hNext path
      cases path with
      | refl => exact ih _ _ hNext _ _ hNext (.refl _ _)
      | step hFirst rest => exact ih _ _ hNext _ _ hFirst (rest.snoc hNext)

/-- A place has been entered by a walk that numbers its places from `base` on. -/
def Entered (p : Program) (base : Nat) (v : Visited) (pc pos : Nat) : Prop :=
  v.contains (p.pairNumber base ⟨pc, pos, []⟩) = true

/-- How many places may still be entered. -/
def unentered (p : Program) (h : Array Char) (base : Nat) (v : Visited) : Nat :=
  (List.range (p.code.size * (h.size + 1 - base))).countP fun n => !v.contains n

theorem unentered_le (v : Visited) :
    p.unentered h base v ≤ p.code.size * (h.size + 1 - base) := by
  have hLe := List.countP_le_length (p := fun n => !v.contains n)
    (l := List.range (p.code.size * (h.size + 1 - base)))
  simpa [unentered] using hLe

private theorem countP_insert (v : Visited) (n : Nat) (hNew : v.contains n = false) :
    ∀ l : List Nat, l.Nodup → n ∈ l →
      l.countP (fun k => !(v.insert n).contains k) + 1 = l.countP (fun k => !v.contains k)
  | [], _, hMem => by simp at hMem
  | k :: rest, hNodup, hMem => by
      obtain ⟨hHead, hRest⟩ := List.nodup_cons.mp hNodup
      by_cases hk : k = n
      · subst hk
        have hSame : rest.countP (fun i => !(v.insert k).contains i) =
            rest.countP (fun i => !v.contains i) := by
          apply List.countP_congr
          intro i hi
          have hNe : k ≠ i := fun hEq => hHead (hEq ▸ hi)
          simp [Visited.contains_insert, hNe]
        rw [List.countP_cons, List.countP_cons, hSame]
        simp [Visited.contains_insert, hNew]
      · have hTail := countP_insert v n hNew rest hRest
          ((List.mem_cons.mp hMem).resolve_left (fun hEq => hk hEq.symm))
        have hNe : (n == k) = false := by simpa using fun hEq => hk hEq.symm
        simp only [List.countP_cons, Visited.contains_insert, hNe, Bool.false_or] at hTail ⊢
        omega

theorem pairNumber_lt {pc pos : Nat} {marks : List (Nat × Nat)} (hPc : pc < p.code.size)
    (hBase : base ≤ pos) (hPos : pos ≤ h.size) :
    p.pairNumber base ⟨pc, pos, marks⟩ < p.code.size * (h.size + 1 - base) := by
  have hRow : (pos - base + 1) * p.code.size ≤ p.code.size * (h.size + 1 - base) := by
    rw [Nat.mul_comm]
    exact Nat.mul_le_mul_left _ (by omega)
  rw [Nat.add_mul, Nat.one_mul] at hRow
  simp only [pairNumber]
  omega

/-- Places of the program that start no earlier than `base` have numbers of their own. -/
theorem pairNumber_inj {pc pos pc' pos' : Nat} {marks marks' : List (Nat × Nat)}
    (hPc : pc < p.code.size) (hPc' : pc' < p.code.size) (hBase : base ≤ pos) (hBase' : base ≤ pos')
    (hEq : p.pairNumber base ⟨pc, pos, marks⟩ = p.pairNumber base ⟨pc', pos', marks'⟩) :
    pc = pc' ∧ pos = pos' := by
  have hMod : ∀ k i, i < p.code.size → (k * p.code.size + i) % p.code.size = i := by
    intro k i hi
    rw [Nat.mul_comm, Nat.mul_add_mod, Nat.mod_eq_of_lt hi]
  have hDiv : ∀ k i, i < p.code.size → (k * p.code.size + i) / p.code.size = k := by
    intro k i hi
    rw [Nat.mul_comm, Nat.mul_add_div (by omega), Nat.div_eq_of_lt hi, Nat.add_zero]
  simp only [pairNumber] at hEq
  have hPcEq := congrArg (· % p.code.size) hEq
  have hPosEq := congrArg (· / p.code.size) hEq
  simp only [hMod _ _ hPc, hMod _ _ hPc', hDiv _ _ hPc, hDiv _ _ hPc'] at hPcEq hPosEq
  exact ⟨hPcEq, by omega⟩

theorem unentered_insert {v : Visited} {t : Thread} (hPc : t.pc < p.code.size) (hBase : base ≤ t.pos)
    (hPos : t.pos ≤ h.size) (hNew : v.contains (p.pairNumber base t) = false) :
    p.unentered h base (v.insert (p.pairNumber base t)) + 1 = p.unentered h base v :=
  countP_insert v _ hNew _ List.nodup_range (List.mem_range.mpr (pairNumber_lt hPc hBase hPos))

theorem entered_insert {v : Visited} {t : Thread} {pc pos : Nat} (hPc : t.pc < p.code.size)
    (hBase : base ≤ t.pos) (hPc' : pc < p.code.size) (hBase' : base ≤ pos) :
    p.Entered base (v.insert (p.pairNumber base t)) pc pos ↔
      (pc = t.pc ∧ pos = t.pos) ∨ p.Entered base v pc pos := by
  simp only [Entered, Visited.contains_insert, Bool.or_eq_true, beq_iff_eq]
  constructor
  · rintro (hEq | hOld)
    · obtain ⟨h₁, h₂⟩ := pairNumber_inj hPc hPc' hBase hBase' hEq
      exact .inl ⟨h₁.symm, h₂.symm⟩
    · exact .inr hOld
  · rintro (⟨rfl, rfl⟩ | hOld)
    · exact .inl rfl
    · exact .inr hOld

/-- Nothing that a place leads to was entered, unless it fails. -/
def Fresh (p : Program) (h : Array Char) (base : Nat) (v : Visited) (pc pos : Nat) : Prop :=
  ∀ pc' pos', p.Leads h pc pos pc' pos' → p.Entered base v pc' pos' → ¬p.Succeeds h pc' pos'

/-- What a walk does with the threads `front` on top of its stack: it returns the preferred path of
the first one that succeeds, or passes over all of them, having entered only places that fail. -/
def Explores (p : Program) (h : Array Char) (base fuel : Nat) (v : Visited)
    (front stack : List Thread) : Prop :=
  (∃ n before t after r v', front = before ++ t :: after ∧
    (∀ w ∈ before, ¬p.Succeeds h w.pc w.pos) ∧ p.Prefers h n t r ∧
    p.walk h base fuel v (front ++ stack) = (some r, v')) ∨
  ((∀ w ∈ front, ¬p.Succeeds h w.pc w.pos) ∧ ∃ fuel' v',
    p.walk h base fuel v (front ++ stack) = p.walk h base fuel' v' stack ∧
    2 * p.unentered h base v' + stack.length < fuel' ∧
    ∀ pc pos, pc < p.code.size → base ≤ pos → p.Entered base v' pc pos →
      p.Entered base v pc pos ∨ ¬p.Succeeds h pc pos)

/-- Several threads are explored one after another. -/
theorem explores_of_each (front : List Thread)
    (hEach : ∀ t ∈ front, p.Halts h t.pc t.pos ∧ base ≤ t.pos ∧ ∀ fuel v stack,
      p.Fresh h base v t.pc t.pos → 2 * p.unentered h base v + (stack.length + 1) < fuel →
      p.Explores h base fuel v [t] stack) :
    ∀ fuel v stack, (∀ t ∈ front, p.Fresh h base v t.pc t.pos) →
      2 * p.unentered h base v + (front.length + stack.length) < fuel →
      p.Explores h base fuel v front stack := by
  induction front with
  | nil =>
      intro fuel v stack _ hFuel
      refine .inr ⟨by simp, fuel, v, rfl, by simpa using hFuel, ?_⟩
      intro pc pos _ _ hEntered
      exact .inl hEntered
  | cons t rest ih =>
      intro fuel v stack hFresh hFuel
      obtain ⟨hHalts, hBase, hFirst⟩ := hEach t (List.mem_cons_self ..)
      have hRest := ih fun u hu => hEach u (List.mem_cons_of_mem _ hu)
      have hFuel' : 2 * p.unentered h base v + ((rest ++ stack).length + 1) < fuel := by
        simp only [List.length_cons, List.length_append] at hFuel ⊢
        omega
      rcases hFirst fuel v (rest ++ stack) (hFresh t (List.mem_cons_self ..)) hFuel' with
        ⟨n, before, u, after, r, v', hSplit, hBefore, path, hWalk⟩ | ⟨hFail, fuel', v', hWalk, hLeft, hOld⟩
      · have hSplit' : t :: rest = before ++ u :: (after ++ rest) := by
          rw [← List.cons_append, ← List.append_assoc, ← hSplit]
          rfl
        exact .inl ⟨n, before, u, after ++ rest, r, v', hSplit', hBefore, path, hWalk⟩
      · have hFresh' : ∀ u ∈ rest, p.Fresh h base v' u.pc u.pos := by
          intro u hu pc pos path hEntered
          obtain ⟨hHaltsU, hBaseU, -⟩ := hEach u (List.mem_cons_of_mem _ hu)
          have hPc := (hHaltsU.of_leads path).pc_lt
          rcases hOld pc pos hPc (Nat.le_trans hBaseU (path.pos_le hHaltsU.pos_le)) hEntered with
            hBefore | hFails
          · exact hFresh u (List.mem_cons_of_mem _ hu) pc pos path hBefore
          · exact hFails
        have hLeft' : 2 * p.unentered h base v' + (rest.length + stack.length) < fuel' := by
          simpa using hLeft
        have hFailT : ¬p.Succeeds h t.pc t.pos := hFail t (List.mem_singleton.mpr rfl)
        rcases hRest fuel' v' stack hFresh' hLeft' with
          ⟨n, before, u, after, r, v'', hSplit, hBefore, path, hWalk'⟩ |
          ⟨hFailRest, fuel'', v'', hWalk', hLeft'', hOld'⟩
        · refine .inl ⟨n, t :: before, u, after, r, v'', by simp [hSplit], ?_, path, ?_⟩
          · intro w hw
            rcases List.mem_cons.mp hw with rfl | hw
            · exact hFailT
            · exact hBefore w hw
          · exact hWalk.trans hWalk'
        · refine .inr ⟨?_, fuel'', v'', hWalk.trans hWalk', hLeft'', ?_⟩
          · intro w hw
            rcases List.mem_cons.mp hw with rfl | hw
            · exact hFailT
            · exact hFailRest w hw
          · intro pc pos hPc hBasePos hEntered
            rcases hOld' pc pos hPc hBasePos hEntered with hEntered | hFails
            · exact hOld pc pos hPc hBasePos hEntered
            · exact .inr hFails

/-- A place that was not entered before is explored by a step from it, if the threads that the step
leaves are. -/
theorem explores_of_step {t : Thread} (hHalts : p.Halts h t.pc t.pos) (hBase : base ≤ t.pos)
    (hAccept : p.code[t.pc]? ≠ some .accept)
    (hEach : ∀ u ∈ p.step h t, ∀ fuel v stack, p.Fresh h base v u.pc u.pos →
      2 * p.unentered h base v + (stack.length + 1) < fuel → p.Explores h base fuel v [u] stack)
    {fuel : Nat} {v : Visited} {stack : List Thread}
    (hNew : v.contains (p.pairNumber base t) = false) (hFresh : p.Fresh h base v t.pc t.pos)
    (hFuel : 2 * p.unentered h base v + (stack.length + 1) < fuel + 1) :
    p.Explores h base (fuel + 1) v [t] stack := by
  have hPc := hHalts.pc_lt
  have hPos := hHalts.pos_le
  let v₁ := v.insert (p.pairNumber base t)
  have hWalk : p.walk h base (fuel + 1) v ([t] ++ stack) =
      p.walk h base fuel v₁ (p.step h t ++ stack) := by
    simp [walk, hNew, hAccept, v₁]
  have hCount : p.unentered h base v₁ + 1 = p.unentered h base v :=
    unentered_insert hPc hBase hPos hNew
  have hLength : (p.step h t).length ≤ 2 := length_step_le t
  have hNext : ∀ u ∈ p.step h t, p.Halts h u.pc u.pos ∧ base ≤ u.pos := by
    intro u hu
    exact ⟨hHalts.of_leads (.step (mem_successors_of_mem_step hu) (.refl _ _)),
      Nat.le_trans hBase (pos_of_mem_step hu hPos).1⟩
  have hFresh₁ : ∀ u ∈ p.step h t, p.Fresh h base v₁ u.pc u.pos := by
    intro u hu pc pos path hEntered
    obtain ⟨hHaltsU, hBaseU⟩ := hNext u hu
    have hBase' := Nat.le_trans hBaseU (path.pos_le hHaltsU.pos_le)
    rcases (entered_insert hPc hBase (hHaltsU.of_leads path).pc_lt hBase').mp hEntered with
      ⟨rfl, rfl⟩ | hOld
    · exact absurd path (hHalts.not_leads _ _ (mem_successors_of_mem_step hu))
    · exact hFresh pc pos (.step (mem_successors_of_mem_step hu) path) hOld
  rcases explores_of_each (p.step h t) (fun u hu => ⟨(hNext u hu).1, (hNext u hu).2, hEach u hu⟩)
      fuel v₁ stack hFresh₁ (by omega) with
    ⟨n, before, u, after, r, v', hSplit, hBefore, path, hFound⟩ |
    ⟨hFail, fuel', v', hPassed, hLeft, hOld⟩
  · exact .inl ⟨n + 1, [], t, [], r, v', rfl, by simp, .step hSplit hBefore path,
      hWalk.trans hFound⟩
  · have hFailT : ¬p.Succeeds h t.pc t.pos := by
      rw [succeeds_iff_of_not_accept hAccept]
      rintro ⟨q, hNext, hq⟩
      obtain ⟨u, hu, hPcU, hPosU⟩ := exists_mem_step hNext
      exact hFail u hu (by rwa [hPcU, hPosU])
    refine .inr ⟨by simpa using hFailT, fuel', v', hWalk.trans hPassed, hLeft, ?_⟩
    intro pc pos hPc' hBase' hEntered
    rcases hOld pc pos hPc' hBase' hEntered with hEntered | hFails
    · rcases (entered_insert hPc hBase hPc' hBase').mp hEntered with ⟨rfl, rfl⟩ | hEntered
      · exact .inr hFailT
      · exact .inl hEntered
    · exact .inr hFails

/-- From a place all of whose paths end, the walk explores: places entered before do not matter, as
long as those that are met again fail. -/
theorem explores_of_halts {pc pos : Nat} (hHalts : p.Halts h pc pos) (hBase : base ≤ pos) :
    ∀ marks fuel v stack, p.Fresh h base v pc pos →
      2 * p.unentered h base v + (stack.length + 1) < fuel →
      p.Explores h base fuel v [⟨pc, pos, marks⟩] stack := by
  induction hHalts with
  | @intro pc pos hPc hPos next ih =>
      intro marks fuel v stack hFresh hFuel
      cases fuel with
      | zero => omega
      | succ fuel =>
          cases hSeen : v.contains (p.pairNumber base ⟨pc, pos, marks⟩) with
          | true =>
              have hFail : ¬p.Succeeds h pc pos := hFresh pc pos (.refl pc pos) hSeen
              refine .inr ⟨by simpa using hFail, fuel, v, by simp [walk, hSeen], by omega, ?_⟩
              intro pc' pos' _ _ hEntered
              exact .inl hEntered
          | false =>
              by_cases hAccept : p.code[pc]? = some .accept
              · exact .inl ⟨0, [], ⟨pc, pos, marks⟩, [], _, v, rfl, by simp, .here hAccept,
                  by simp [walk, hSeen, hAccept]⟩
              · refine explores_of_step (.intro hPc hPos next) hBase hAccept ?_ hSeen hFresh hFuel
                intro u hu
                have hLater := Nat.le_trans hBase (pos_of_mem_step hu hPos).1
                exact ih _ _ (mem_successors_of_mem_step hu) hLater u.marks

/-- A match at the first position from `start` on where there is one, by the preferred path. -/
structure IsLeftmost (p : Program) (h : Array Char) (start : Nat) (c : Captures) : Prop where
  start_le : start ≤ c.start
  start_le_size : c.start ≤ h.size
  path : ∃ n r, p.Prefers h n ⟨p.entry, c.start, []⟩ r ∧ r.pos = c.stop ∧ r.marks = c.marks
  none_before : ∀ pos, start ≤ pos → pos < c.start → ¬p.Succeeds h p.entry pos

/-- Only places that fail have been entered. -/
def Clean (p : Program) (h : Array Char) (base : Nat) (v : Visited) : Prop :=
  ∀ pc pos, pc < p.code.size → base ≤ pos → p.Entered base v pc pos → ¬p.Succeeds h pc pos

/-- The walk from one position finds the preferred path, or nothing and stays clean. -/
theorem walk_entry {start : Nat} {v : Visited} (hHalts : p.Halts h p.entry start)
    (hBase : base ≤ start) (hClean : p.Clean h base v) :
    (∃ n r v', p.Prefers h n ⟨p.entry, start, []⟩ r ∧
      p.walk h base (p.walkBound h base) v [⟨p.entry, start, []⟩] = (some r, v')) ∨
    (¬p.Succeeds h p.entry start ∧ ∃ v', p.Clean h base v' ∧
      p.walk h base (p.walkBound h base) v [⟨p.entry, start, []⟩] = (none, v')) := by
  have hFresh : p.Fresh h base v p.entry start := by
    intro pc pos path hEntered
    exact hClean pc pos (hHalts.of_leads path).pc_lt
      (Nat.le_trans hBase (path.pos_le hHalts.pos_le)) hEntered
  have hFuel : 2 * p.unentered h base v + (([] : List Thread).length + 1) <
      p.walkBound h base := by
    have hLe : p.unentered h base v ≤ _ := unentered_le v
    simp only [walkBound, List.length_nil]
    omega
  rcases explores_of_halts hHalts hBase [] _ v [] hFresh hFuel with
    ⟨n, before, t, after, r, v', hSplit, hBefore, path, hWalk⟩ |
    ⟨hFail, fuel', v', hWalk, -, hOld⟩
  · have hFirst : before = [] ∧ t = ⟨p.entry, start, []⟩ := by
      cases before with
      | nil => simpa using (List.cons.inj hSplit).1.symm
      | cons w rest => simp at hSplit
    obtain ⟨rfl, rfl⟩ := hFirst
    simp only [List.append_nil] at hWalk
    exact .inl ⟨n, r, v', path, hWalk⟩
  · have hEmpty : p.walk h base fuel' v' [] = (none, v') := by
      cases fuel' <;> simp [walk]
    rw [hEmpty, List.append_nil] at hWalk
    refine .inr ⟨by simpa using hFail, v', ?_, hWalk⟩
    intro pc pos hPc hPos hEntered
    rcases hOld pc pos hPc hPos hEntered with hEntered | hFails
    · exact hClean pc pos hPc hPos hEntered
    · exact hFails

/-- The marks left by failed attempts at earlier positions do no harm to later ones. -/
theorem findWithin_spec (hHalts : ∀ pos, pos ≤ h.size → p.Halts h p.entry pos) (n start : Nat)
    (v : Visited) (hBase : base ≤ start) (hCount : start + n = h.size + 1)
    (hClean : p.Clean h base v) :
    (∀ c, p.findWithin h base n start v = some c → p.IsLeftmost h start c) ∧
    (p.findWithin h base n start v = none →
      ∀ pos, start ≤ pos → pos ≤ h.size → ¬p.Succeeds h p.entry pos) := by
  induction n generalizing start v with
  | zero =>
      refine ⟨by simp [findWithin], ?_⟩
      intro _ pos hFrom hTo
      omega
  | succ n ih =>
      rcases walk_entry (hHalts start (by omega)) hBase hClean with
        ⟨k, r, v', path, hWalk⟩ | ⟨hFail, v', hClean', hWalk⟩
      · simp only [findWithin, hWalk]
        refine ⟨?_, by simp⟩
        rintro c hc
        obtain rfl := (Option.some.inj hc).symm
        exact ⟨Nat.le_refl _, by simp; omega, ⟨k, r, path, rfl, rfl⟩,
          fun pos hFrom hTo => absurd hTo (by simp; omega)⟩
      · obtain ⟨hSome, hNone⟩ := ih (start + 1) v' (by omega) (by omega) hClean'
        simp only [findWithin, hWalk]
        constructor
        · intro c hc
          have hLeft := hSome c hc
          refine ⟨Nat.le_of_succ_le hLeft.start_le, hLeft.start_le_size, hLeft.path, ?_⟩
          intro pos hFrom hTo
          rcases Nat.eq_or_lt_of_le hFrom with rfl | hLater
          · exact hFail
          · exact hLeft.none_before pos hLater hTo
        · intro hc pos hFrom hTo
          rcases Nat.eq_or_lt_of_le hFrom with rfl | hLater
          · exact hFail
          · exact hNone hc pos hLater hTo

private theorem not_contains_empty (n : Nat) : Visited.empty.contains n = false := by
  simp [Visited.empty, Visited.contains, Array.getD]

/-- A search finds the leftmost match, and nothing only where nothing matches. -/
theorem findFrom_spec (hHalts : ∀ pos, pos ≤ h.size → p.Halts h p.entry pos) {start : Nat}
    (hStart : start ≤ h.size + 1) :
    (∀ c, p.findFrom h start = some c → p.IsLeftmost h start c) ∧
    (p.findFrom h start = none →
      ∀ pos, start ≤ pos → pos ≤ h.size → ¬p.Succeeds h p.entry pos) :=
  findWithin_spec hHalts _ start .empty (Nat.le_refl _) (by omega) fun _ _ _ _ hEntered => by
    simp [Entered, not_contains_empty] at hEntered

end Expurgate.Program
