import Expurgate.Proofs.Regex.Emission
import Expurgate.Proofs.Regex.Walk

/-! The emitted instructions do what the expression says. Main statement: the search with the
program of a productive expression finds the leftmost stretch that the expression matches, in the
way it prefers. -/
namespace Expurgate

open Unicode

namespace Program

variable {p : Program} {h : Array Char}

theorem step_set {t : Thread} {s : CharSet} {next : Nat}
    (hCode : p.code[t.pc]? = some (.set s next)) :
    p.step h t = (h[t.pos]?.toList.filter s.contains).map fun _ => ⟨next, t.pos + 1, t.marks⟩ := by
  cases hc : h[t.pos]? with
  | none => simp [step, hCode, hc]
  | some c => by_cases hs : s.contains c <;> simp [step, hCode, hc, hs]

theorem step_look {t : Thread} {l : Look} {ascii : Bool} {next : Nat}
    (hCode : p.code[t.pc]? = some (.look l ascii next)) :
    p.step h t = if l.holds (if ascii then isAsciiWord else isWord) h t.pos then
      [⟨next, t.pos, t.marks⟩] else [] := by
  simp [step, hCode]

theorem step_mark {t : Thread} {slot next : Nat} (hCode : p.code[t.pc]? = some (.mark slot next)) :
    p.step h t = [⟨next, t.pos, (slot, t.pos) :: t.marks⟩] := by
  simp [step, hCode]

theorem step_split {t : Thread} {first second : Nat}
    (hCode : p.code[t.pc]? = some (.split first second)) :
    p.step h t = [⟨first, t.pos, t.marks⟩, ⟨second, t.pos, t.marks⟩] := by
  simp [step, hCode]

/-- A thread that is not at an accepting instruction takes a step, and one of the threads after the
step goes on to accept in a step less. -/
theorem Accepts.head {n pc pos : Nat} (path : p.Accepts h n pc pos)
    (hCode : p.code[pc]? ≠ some .accept) :
    ∃ k u, n = k + 1 ∧ u ∈ p.step h ⟨pc, pos, []⟩ ∧ p.Accepts h k u.pc u.pos := by
  cases path with
  | here hAccept => exact absurd hAccept hCode
  | @step k _ _ _ _ hNext rest =>
      obtain ⟨u, hu, rfl, rfl⟩ := exists_mem_step (t := ⟨pc, pos, []⟩) hNext
      exact ⟨k, u, rfl, hu, rest⟩

/-- Accepting paths of this length split where a fragment ends. -/
def AcceptsThrough (p : Program) (h : Array Char) (n : Nat) : Prop :=
  ∀ {r : Regex} {entry next pos : Nat}, Fragment p.code r entry next → p.Accepts h n entry pos →
    ∃ k ≤ n, ∃ q m, r.Matches h pos q m ∧ p.Accepts h k next q

/-- A path through an alternation goes through one of its branches. The path through the branch is
shorter, and so the claim is known of it. -/
theorem AcceptsThrough.alt {n : Nat} (hShorter : ∀ k < n, p.AcceptsThrough h k) {a b : Regex}
    {entry left right next pos : Nat} (hCode : p.code[entry]? = some (.split left right))
    (first : Fragment p.code a left next) (second : Fragment p.code b right next)
    (path : p.Accepts h n entry pos) :
    ∃ k ≤ n, ∃ q m, (Regex.alt a b).Matches h pos q m ∧ p.Accepts h k next q := by
  obtain ⟨k, u, rfl, hu, rest⟩ := path.head (by simp [hCode])
  rw [step_split hCode] at hu
  simp only [List.mem_cons, List.not_mem_nil, or_false] at hu
  rcases hu with rfl | rfl
  · obtain ⟨k', hk', q, m, way, rest⟩ := hShorter k (by omega) first rest
    exact ⟨k', by omega, q, m, .left way, rest⟩
  · obtain ⟨k', hk', q, m, way, rest⟩ := hShorter k (by omega) second rest
    exact ⟨k', by omega, q, m, .right way, rest⟩

/-- A path through an option goes through its body or past it. -/
theorem AcceptsThrough.option {n : Nat} (hShorter : ∀ k < n, p.AcceptsThrough h k) {greedy : Bool}
    {r : Regex} {entry body next pos : Nat}
    (hCode : p.code[entry]? = some (choice greedy body next))
    (inner : Fragment p.code r body next) (path : p.Accepts h n entry pos) :
    ∃ k ≤ n, ∃ q m, (Regex.option greedy r).Matches h pos q m ∧ p.Accepts h k next q := by
  have hChoice : ∃ k ≤ n, ∃ q m, (Regex.ordered greedy r .empty).Matches h pos q m ∧
      p.Accepts h k next q := by
    cases greedy
    · exact alt hShorter hCode (.empty next) inner path
    · exact alt hShorter hCode inner (.empty next) path
  obtain ⟨k, hk, q, m, way, rest⟩ := hChoice
  exact ⟨k, hk, q, m, .option way, rest⟩

/-- An accepting path through a fragment matches the expression and goes on behind it. The outer
induction is on the length of the path, for a loop comes back to its own fragment. -/
theorem acceptsThrough (n : Nat) : p.AcceptsThrough h n := by
  induction n using Nat.strongRecOn with
  | ind n ih =>
      intro r entry next pos hFragment
      induction hFragment generalizing pos with
      | empty next =>
          intro path
          exact ⟨n, Nat.le_refl n, pos, [], .empty pos, path⟩
      | @set s entry next hCode =>
          intro path
          obtain ⟨k, u, rfl, hu, rest⟩ := path.head (by simp [hCode])
          rw [step_set hCode] at hu
          obtain ⟨c, hc, rfl⟩ := List.mem_map.mp hu
          simp only [List.mem_filter, Option.mem_toList] at hc
          exact ⟨k, by omega, pos + 1, [], .set hc.1 hc.2, rest⟩
      | @look l ascii entry next hCode =>
          intro path
          obtain ⟨k, u, rfl, hu, rest⟩ := path.head (by simp [hCode])
          rw [step_look hCode, List.mem_ite_nil_right, List.mem_singleton] at hu
          obtain ⟨hHolds, rfl⟩ := hu
          exact ⟨k, by omega, pos, [], .look hHolds, rest⟩
      | @capture i r entry body close next hOpen inner hClose =>
          intro path
          obtain ⟨k, u, rfl, hu, rest⟩ := path.head (by simp [hOpen])
          rw [step_mark hOpen, List.mem_singleton] at hu
          subst hu
          obtain ⟨k', hk', q, m, way, rest⟩ := ih k (by omega) inner rest
          obtain ⟨k'', u, rfl, hu, rest⟩ := rest.head (by simp [hClose])
          rw [step_mark hClose, List.mem_singleton] at hu
          subst hu
          exact ⟨k'', by omega, q, _, .capture way, rest⟩
      | @seq a b entry middle next _ second ihFirst ihSecond =>
          intro path
          obtain ⟨k, hk, q, m, way, rest⟩ := ihFirst path
          have hSecond : ∃ k' ≤ k, ∃ q' m', b.Matches h q q' m' ∧ p.Accepts h k' next q' := by
            rcases Nat.eq_or_lt_of_le hk with rfl | hLess
            · exact ihSecond rest
            · exact ih k hLess second rest
          obtain ⟨k', hk', q', m', way', rest⟩ := hSecond
          exact ⟨k', Nat.le_trans hk' hk, q', _, .seq way way', rest⟩
      | alt hCode first second =>
          intro path
          exact AcceptsThrough.alt ih hCode first second path
      | option hCode inner =>
          intro path
          exact AcceptsThrough.option ih hCode inner path
      | loop hCode inner ihInner =>
          intro path
          obtain ⟨k, hk, q, m, way, rest⟩ := ihInner path
          have hShorter : ∀ j < k, p.AcceptsThrough h j := fun j hj => ih j (by omega)
          obtain ⟨k', hk', q', m', way', rest⟩ :=
            AcceptsThrough.option hShorter hCode (.loop hCode inner) rest
          exact ⟨k', Nat.le_trans hk' hk, q', _, .loop (.seq way way'), rest⟩

/-- A mark changes nothing about success. -/
theorem succeeds_mark {pc slot next : Nat} (hCode : p.code[pc]? = some (.mark slot next)) :
    p.Succeeds h pc = p.Succeeds h next := by
  funext pos
  apply propext
  constructor
  · rintro ⟨n, path⟩
    obtain ⟨k, u, rfl, hu, rest⟩ := path.head (by simp [hCode])
    rw [step_mark hCode, List.mem_singleton] at hu
    subst hu
    exact ⟨k, rest⟩
  · intro hNext
    have hStep : (⟨next, pos, [(slot, pos)]⟩ : Thread) ∈ p.step h ⟨pc, pos, []⟩ := by
      simp [step, hCode]
    exact .of_step (mem_successors_of_mem_step hStep) hNext

/-- A way to match leads through the fragment, whatever follows it. -/
theorem succeeds_of_matches {r : Regex} {pos q : Nat} {m : List (Nat × Nat)}
    (way : r.Matches h pos q m) : ∀ {entry next : Nat}, Fragment p.code r entry next →
      p.Succeeds h next q → p.Succeeds h entry pos := by
  induction way with
  | empty pos =>
      intro entry next hFragment hNext
      cases hFragment
      exact hNext
  | @set s pos c hChar hMem =>
      intro entry next hFragment hNext
      cases hFragment with
      | set hCode =>
          have hStep : (⟨next, pos + 1, []⟩ : Thread) ∈ p.step h ⟨entry, pos, []⟩ := by
            simp [step, hCode, hChar, hMem]
          exact .of_step (mem_successors_of_mem_step hStep) hNext
  | @look l ascii pos hHolds =>
      intro entry next hFragment hNext
      cases hFragment with
      | look hCode =>
          have hStep : (⟨next, pos, []⟩ : Thread) ∈ p.step h ⟨entry, pos, []⟩ := by
            simp [step, hCode, hHolds]
          exact .of_step (mem_successors_of_mem_step hStep) hNext
  | @capture i r pos q m body ih =>
      intro entry next hFragment hNext
      cases hFragment with
      | capture hOpen inner hClose =>
          rw [succeeds_mark hOpen]
          apply ih inner
          rw [succeeds_mark hClose]
          exact hNext
  | seq _ _ ihFirst ihSecond =>
      intro entry next hFragment hNext
      cases hFragment with
      | seq first second => exact ihFirst first (ihSecond second hNext)
  | @left a b pos q m _ ih =>
      intro entry next hFragment hNext
      cases hFragment with
      | @alt _ _ _ left right _ hCode first second =>
          have hStep : (⟨left, pos, []⟩ : Thread) ∈ p.step h ⟨entry, pos, []⟩ := by
            simp [step, hCode]
          exact .of_step (mem_successors_of_mem_step hStep) (ih first hNext)
  | @right a b pos q m _ ih =>
      intro entry next hFragment hNext
      cases hFragment with
      | @alt _ _ _ left right _ hCode first second =>
          have hStep : (⟨right, pos, []⟩ : Thread) ∈ p.step h ⟨entry, pos, []⟩ := by
            simp [step, hCode]
          exact .of_step (mem_successors_of_mem_step hStep) (ih second hNext)
  | option _ ih =>
      intro entry next hFragment hNext
      cases hFragment with
      | option hCode inner => exact ih (inner.ordered hCode) hNext
  | loop _ ih =>
      intro entry next hFragment hNext
      cases hFragment with
      | loop hCode inner => exact ih (inner.unroll hCode) hNext

/-- A fragment succeeds at a position exactly if its expression can go through from there to a
position where the code behind it succeeds. This is what reduces programs to expressions. -/
theorem succeeds_iff_goes {r : Regex} {entry next : Nat} (hFragment : Fragment p.code r entry next)
    (pos : Nat) : p.Succeeds h entry pos ↔ r.Goes h (p.Succeeds h next) pos := by
  constructor
  · rintro ⟨n, path⟩
    obtain ⟨k, -, q, m, way, rest⟩ := acceptsThrough n hFragment path
    exact ⟨q, m, way, k, rest⟩
  · rintro ⟨q, m, way, hNext⟩
    exact succeeds_of_matches way hFragment hNext

/-- The preferred result of a thread comes by the first of its steps that succeeds. The ones before
it must fail altogether. -/
theorem Prefers.head {n : Nat} {t r : Thread} (path : p.Prefers h n t r)
    (hCode : p.code[t.pc]? ≠ some .accept) :
    ∃ k before u after, n = k + 1 ∧ p.step h t = before ++ u :: after ∧
      (∀ w ∈ before, ¬p.Succeeds h w.pc w.pos) ∧ p.Prefers h k u r := by
  cases path with
  | here hAccept => exact absurd hAccept hCode
  | @step k _ u _ before after hStep hBefore rest =>
      exact ⟨k, before, u, after, rfl, hStep, hBefore, rest⟩

/-- Where a step leads to one thread only, the preferred path takes it. -/
theorem Prefers.head_single {n : Nat} {t u r : Thread} (path : p.Prefers h n t r)
    (hCode : p.code[t.pc]? ≠ some .accept) (hOnly : ∀ w ∈ p.step h t, w = u) :
    u ∈ p.step h t ∧ ∃ k, n = k + 1 ∧ p.Prefers h k u r := by
  obtain ⟨k, before, w, after, rfl, hStep, -, rest⟩ := path.head hCode
  have hMem : w ∈ p.step h t := by simp [hStep]
  obtain rfl := hOnly w hMem
  exact ⟨hMem, k, rfl, rest⟩

/-- Preferred paths of this length split where a fragment ends. -/
def PrefersThrough (p : Program) (h : Array Char) (n : Nat) : Prop :=
  ∀ {r : Regex} {entry next pos : Nat} {marks : List (Nat × Nat)} {res : Thread},
    Fragment p.code r entry next → p.Prefers h n ⟨entry, pos, marks⟩ res →
      ∃ k ≤ n, ∃ q m, r.Prefers h (p.Succeeds h next) pos q m ∧
        p.Prefers h k ⟨next, q, m ++ marks⟩ res

/-- In an alternation the second branch is preferred only where the first has no way to go on. -/
theorem PrefersThrough.alt {n : Nat} (hShorter : ∀ k < n, p.PrefersThrough h k) {a b : Regex}
    {entry left right next pos : Nat} {marks : List (Nat × Nat)} {res : Thread}
    (hCode : p.code[entry]? = some (.split left right))
    (first : Fragment p.code a left next) (second : Fragment p.code b right next)
    (path : p.Prefers h n ⟨entry, pos, marks⟩ res) :
    ∃ k ≤ n, ∃ q m, (Regex.alt a b).Prefers h (p.Succeeds h next) pos q m ∧
      p.Prefers h k ⟨next, q, m ++ marks⟩ res := by
  obtain ⟨k, before, u, after, rfl, hStep, hBefore, rest⟩ := path.head (by simp [hCode])
  rw [step_split hCode] at hStep
  cases before with
  | nil =>
      obtain rfl := (List.cons.inj hStep).1
      obtain ⟨k', hk', q, m, way, rest⟩ := hShorter k (by omega) first rest
      exact ⟨k', by omega, q, m, .left way, rest⟩
  | cons w others =>
      obtain ⟨rfl, hTail⟩ := List.cons.inj hStep
      have hFail := hBefore _ (List.mem_cons_self ..)
      rw [succeeds_iff_goes first] at hFail
      cases others with
      | nil =>
          obtain rfl := (List.cons.inj hTail).1
          obtain ⟨k', hk', q, m, way, rest⟩ := hShorter k (by omega) second rest
          exact ⟨k', by omega, q, m, .right hFail way, rest⟩
      | cons w others => simp at hTail

/-- A greedy option tries its body first and a lazy one last. The way that is tried second counts
only where the first fails. -/
theorem PrefersThrough.option {n : Nat} (hShorter : ∀ k < n, p.PrefersThrough h k) {greedy : Bool}
    {r : Regex} {entry body next pos : Nat} {marks : List (Nat × Nat)} {res : Thread}
    (hCode : p.code[entry]? = some (choice greedy body next))
    (inner : Fragment p.code r body next) (path : p.Prefers h n ⟨entry, pos, marks⟩ res) :
    ∃ k ≤ n, ∃ q m, (Regex.option greedy r).Prefers h (p.Succeeds h next) pos q m ∧
      p.Prefers h k ⟨next, q, m ++ marks⟩ res := by
  have hChoice : ∃ k ≤ n, ∃ q m,
      (Regex.ordered greedy r .empty).Prefers h (p.Succeeds h next) pos q m ∧
        p.Prefers h k ⟨next, q, m ++ marks⟩ res := by
    cases greedy
    · exact alt hShorter hCode (.empty next) inner path
    · exact alt hShorter hCode inner (.empty next) path
  obtain ⟨k, hk, q, m, way, rest⟩ := hChoice
  exact ⟨k, hk, q, m, .option way, rest⟩

/-- The preferred path through a fragment matches the expression in the way it prefers, given that
what follows the fragment is to succeed. -/
theorem prefersThrough (n : Nat) : p.PrefersThrough h n := by
  induction n using Nat.strongRecOn with
  | ind n ih =>
      intro r entry next pos marks res hFragment
      induction hFragment generalizing pos marks with
      | empty next =>
          intro path
          exact ⟨n, Nat.le_refl n, pos, [], .empty path.succeeds, path⟩
      | @set s entry next hCode =>
          intro path
          have hOnly : ∀ w ∈ p.step h ⟨entry, pos, marks⟩, w = ⟨next, pos + 1, marks⟩ := by
            rw [step_set hCode]
            intro w hw
            obtain ⟨c, -, rfl⟩ := List.mem_map.mp hw
            rfl
          obtain ⟨hMem, k, rfl, rest⟩ := path.head_single (by simp [hCode]) hOnly
          rw [step_set hCode] at hMem
          obtain ⟨c, hc, -⟩ := List.mem_map.mp hMem
          simp only [List.mem_filter, Option.mem_toList] at hc
          exact ⟨k, by omega, pos + 1, [], .set hc.1 hc.2 rest.succeeds, rest⟩
      | @look l ascii entry next hCode =>
          intro path
          have hOnly : ∀ w ∈ p.step h ⟨entry, pos, marks⟩, w = ⟨next, pos, marks⟩ := by
            rw [step_look hCode]
            intro w hw
            exact List.mem_singleton.mp (List.mem_ite_nil_right.mp hw).2
          obtain ⟨hMem, k, rfl, rest⟩ := path.head_single (by simp [hCode]) hOnly
          rw [step_look hCode, List.mem_ite_nil_right] at hMem
          exact ⟨k, by omega, pos, [], .look hMem.1 rest.succeeds, rest⟩
      | @capture i r entry body close next hOpen inner hClose =>
          intro path
          obtain ⟨-, k, rfl, rest⟩ := path.head_single (u := ⟨body, pos, (2 * i, pos) :: marks⟩)
            (by simp [hOpen]) (by simp [step, hOpen])
          obtain ⟨k', hk', q, m, way, rest⟩ := ih k (by omega) inner rest
          obtain ⟨-, k'', rfl, behind⟩ := rest.head_single
            (u := ⟨next, q, (2 * i + 1, q) :: (m ++ (2 * i, pos) :: marks)⟩)
            (by simp [hClose]) (by simp [step, hClose])
          rw [succeeds_mark hClose] at way
          refine ⟨k'', by omega, q, _, .capture way, ?_⟩
          simpa using behind
      | @seq a b entry middle next first second ihFirst ihSecond =>
          intro path
          obtain ⟨k, hk, q, m, way, rest⟩ := ihFirst path
          have hMiddle : p.Succeeds h middle = b.Goes h (p.Succeeds h next) :=
            funext fun q => propext (succeeds_iff_goes second q)
          rw [hMiddle] at way
          have hSecond : ∃ k' ≤ k, ∃ q' m', b.Prefers h (p.Succeeds h next) q q' m' ∧
              p.Prefers h k' ⟨next, q', m' ++ (m ++ marks)⟩ res := by
            rcases Nat.eq_or_lt_of_le hk with rfl | hLess
            · exact ihSecond rest
            · exact ih k hLess second rest
          obtain ⟨k', hk', q', m', way', rest⟩ := hSecond
          refine ⟨k', Nat.le_trans hk' hk, q', _, .seq way way', ?_⟩
          simpa using rest
      | alt hCode first second =>
          intro path
          exact PrefersThrough.alt ih hCode first second path
      | option hCode inner =>
          intro path
          exact PrefersThrough.option ih hCode inner path
      | @loop greedy r body again next hCode inner ihInner =>
          intro path
          obtain ⟨k, hk, q, m, way, rest⟩ := ihInner path
          have hAgain : p.Succeeds h again =
              (Regex.option greedy (.loop greedy r)).Goes h (p.Succeeds h next) :=
            funext fun q => propext (succeeds_iff_goes (.option hCode (.loop hCode inner)) q)
          rw [hAgain] at way
          have hShorter : ∀ j < k, p.PrefersThrough h j := fun j hj => ih j (by omega)
          obtain ⟨k', hk', q', m', way', rest⟩ :=
            PrefersThrough.option hShorter hCode (.loop hCode inner) rest
          refine ⟨k', Nat.le_trans hk' hk, q', _, .loop (.seq way way'), ?_⟩
          simpa using rest

theorem halts_of_code {pc pos : Nat} {i : Instr} (hCode : p.code[pc]? = some i)
    (hPos : pos ≤ h.size)
    (hNext : ∀ u ∈ p.step h ⟨pc, pos, []⟩, p.Halts h u.pc u.pos) : p.Halts h pc pos := by
  refine .intro (Array.getElem?_eq_some_iff.mp hCode).1 hPos ?_
  intro pc' pos' hMem
  obtain ⟨u, hu, rfl, rfl⟩ := exists_mem_step (t := ⟨pc, pos, []⟩) hMem
  exact hNext u hu

theorem halts_choice {greedy : Bool} {entry body next pos : Nat}
    (hCode : p.code[entry]? = some (choice greedy body next)) (hPos : pos ≤ h.size)
    (hBody : p.Halts h body pos) (hNext : p.Halts h next pos) : p.Halts h entry pos := by
  apply halts_of_code hCode hPos
  intro u hu
  cases greedy with
  | false =>
      rw [step_split hCode] at hu
      simp only [List.mem_cons, List.not_mem_nil, or_false] at hu
      rcases hu with rfl | rfl <;> assumption
  | true =>
      rw [step_split hCode] at hu
      simp only [List.mem_cons, List.not_mem_nil, or_false] at hu
      rcases hu with rfl | rfl <;> assumption

/-- Paths through a productive fragment end if those behind it do. A loop comes back only after it
has read something, and there is no more to read than the rest of the text. -/
theorem halts_of_fragment {r : Regex} {entry next : Nat} (hFragment : Fragment p.code r entry next)
    (hProductive : r.Productive) : ∀ pos, pos ≤ h.size →
      (∀ q, pos ≤ q → q ≤ h.size → (r.consumes = true → pos < q) → p.Halts h next q) →
      p.Halts h entry pos := by
  induction hFragment with
  | empty next =>
      intro pos hPos hNext
      exact hNext pos (Nat.le_refl _) hPos (by simp [Regex.consumes])
  | @set s entry next hCode =>
      intro pos hPos hNext
      apply halts_of_code hCode hPos
      intro u hu
      have hInside := pos_of_mem_step hu hPos
      rw [step_set hCode] at hu
      obtain ⟨c, -, rfl⟩ := List.mem_map.mp hu
      exact hNext (pos + 1) hInside.1 hInside.2 fun _ => Nat.lt_succ_self pos
  | @look l ascii entry next hCode =>
      intro pos hPos hNext
      apply halts_of_code hCode hPos
      intro u hu
      rw [step_look hCode, List.mem_ite_nil_right, List.mem_singleton] at hu
      obtain ⟨-, rfl⟩ := hu
      exact hNext pos (Nat.le_refl _) hPos (by simp [Regex.consumes])
  | @capture i r entry body close next hOpen inner hClose ih =>
      intro pos hPos hNext
      apply halts_of_code hOpen hPos
      intro u hu
      rw [step_mark hOpen, List.mem_singleton] at hu
      subst hu
      refine ih hProductive pos hPos ?_
      intro q hFrom hTo hConsumes
      apply halts_of_code hClose hTo
      intro u hu
      rw [step_mark hClose, List.mem_singleton] at hu
      subst hu
      exact hNext q hFrom hTo hConsumes
  | @seq a b entry middle next _ _ ihFirst ihSecond =>
      intro pos hPos hNext
      refine ihFirst hProductive.1 pos hPos ?_
      intro q hFrom hTo hFirst
      refine ihSecond hProductive.2 q hTo ?_
      intro s hFrom' hTo' hSecond
      refine hNext s (Nat.le_trans hFrom hFrom') hTo' ?_
      intro hConsumes
      rcases (Bool.or_eq_true _ _).mp hConsumes with hA | hB
      · exact Nat.lt_of_lt_of_le (hFirst hA) hFrom'
      · exact Nat.lt_of_le_of_lt hFrom (hSecond hB)
  | @alt a b entry left right next hCode _ _ ihFirst ihSecond =>
      intro pos hPos hNext
      apply halts_of_code hCode hPos
      intro u hu
      rw [step_split hCode] at hu
      simp only [List.mem_cons, List.not_mem_nil, or_false] at hu
      rcases hu with rfl | rfl
      · refine ihFirst hProductive.1 pos hPos fun q hFrom hTo hLess => hNext q hFrom hTo ?_
        exact fun hConsumes => hLess ((Bool.and_eq_true _ _).mp hConsumes).1
      · refine ihSecond hProductive.2 pos hPos fun q hFrom hTo hLess => hNext q hFrom hTo ?_
        exact fun hConsumes => hLess ((Bool.and_eq_true _ _).mp hConsumes).2
  | option hCode _ ih =>
      intro pos hPos hNext
      have hFree : ∀ q, pos ≤ q → q ≤ h.size → p.Halts h _ q := fun q hFrom hTo =>
        hNext q hFrom hTo (by simp [Regex.consumes])
      exact halts_choice hCode hPos
        (ih hProductive pos hPos fun q hFrom hTo _ => hFree q hFrom hTo)
        (hFree pos (Nat.le_refl _) hPos)
  | @loop greedy r body again next hCode _ ih =>
      intro pos hPos hNext
      induction hLeft : h.size - pos using Nat.strongRecOn generalizing pos with
      | ind n ihLeft =>
          refine ih hProductive.1 pos hPos ?_
          intro q hFrom hTo hLess
          have hLater := hLess hProductive.2
          have hBehind : ∀ s, q ≤ s → s ≤ h.size → p.Halts h next s := fun s hFrom' hTo' =>
            hNext s (Nat.le_trans hFrom hFrom') hTo' fun _ => Nat.lt_of_lt_of_le hLater hFrom'
          refine halts_choice hCode hTo (ihLeft (h.size - q) (by omega) q hTo ?_ rfl)
            (hBehind q (Nat.le_refl _) hTo)
          exact fun s hFrom' hTo' _ => hBehind s hFrom' hTo'

end Program

namespace Regex

variable {r : Regex} {h : Array Char}

theorem halts_program (hProductive : r.Productive) (pos : Nat) (hPos : pos ≤ h.size) :
    r.program.Halts h r.program.entry pos := by
  refine Program.halts_of_fragment r.fragment_program hProductive pos hPos ?_
  intro q _ hTo _
  apply Program.halts_of_code r.program_accept hTo
  intro u hu
  rw [Program.step_of_accept r.program_accept] at hu
  simp at hu

theorem succeeds_program : r.program.Succeeds h 0 = fun _ => True :=
  funext fun _ => eq_true ⟨0, .here r.program_accept⟩

theorem succeeds_program_iff (pos : Nat) :
    r.program.Succeeds h r.program.entry pos ↔ ∃ q m, r.Matches h pos q m := by
  rw [Program.succeeds_iff_goes r.fragment_program, succeeds_program]
  simp [Goes]

/-- The leftmost match from a position on, in the preferred way. -/
structure FindsAt (r : Regex) (h : Array Char) (start : Nat) (c : Captures) : Prop where
  start_le : start ≤ c.start
  start_le_size : c.start ≤ h.size
  way : r.Prefers h (fun _ => True) c.start c.stop c.marks
  none_before : ∀ pos, start ≤ pos → pos < c.start → ¬∃ q m, r.Matches h pos q m

theorem findsAt_of_isLeftmost {start : Nat} {c : Captures}
    (hLeft : r.program.IsLeftmost h start c) : r.FindsAt h start c := by
  obtain ⟨n, res, path, hStop, hMarks⟩ := hLeft.path
  obtain ⟨k, -, q, m, way, rest⟩ := Program.prefersThrough n r.fragment_program path
  rw [succeeds_program] at way
  have hEnd : res = ⟨0, q, m ++ []⟩ := by
    cases rest with
    | here => rfl
    | step hStep =>
        rw [Program.step_of_accept r.program_accept] at hStep
        simp at hStep
  subst hEnd
  simp only [List.append_nil] at hStop hMarks
  subst hStop hMarks
  refine ⟨hLeft.start_le, hLeft.start_le_size, way, ?_⟩
  intro pos hFrom hTo
  rw [← succeeds_program_iff]
  exact hLeft.none_before pos hFrom hTo

/-- A search with the program of a productive expression finds the leftmost match there is. -/
theorem findFrom_program (hProductive : r.Productive) {start : Nat} (hStart : start ≤ h.size + 1) :
    (∀ c, r.program.findFrom h start = some c → r.FindsAt h start c) ∧
    (r.program.findFrom h start = none →
      ∀ pos, start ≤ pos → pos ≤ h.size → ¬∃ q m, r.Matches h pos q m) := by
  obtain ⟨hSome, hNone⟩ := Program.findFrom_spec (halts_program hProductive) hStart
  refine ⟨fun c hc => findsAt_of_isLeftmost (hSome c hc), ?_⟩
  intro hc pos hFrom hTo
  rw [← succeeds_program_iff]
  exact hNone hc pos hFrom hTo

end Regex

end Expurgate
