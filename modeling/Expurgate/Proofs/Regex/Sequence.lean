import Expurgate.Proofs.Regex.Matching
import Mathlib.Data.Nat.Find

/-! Expressions one after another, and repetitions of a single character. A greedy repetition goes as
far as what follows it allows. -/
namespace Expurgate.Regex

open Unicode

variable {h : Array Char} {K : Nat → Prop} {p q : Nat} {m : List (Nat × Nat)}

theorem productive_sequence (l : List Regex) : (sequence l).Productive ↔ ∀ r ∈ l, r.Productive := by
  induction l using sequence.induct with
  | case1 => simp [sequence, Productive]
  | case2 r => simp [sequence]
  | case3 r rest hRest ih => simp [sequence, Productive, ih]

theorem bare_sequence (l : List Regex) : (sequence l).Bare ↔ ∀ r ∈ l, r.Bare := by
  induction l using sequence.induct with
  | case1 => simp [sequence, Bare]
  | case2 r => simp [sequence]
  | case3 r rest hRest ih => simp [sequence, Bare, ih]

theorem consumes_sequence (l : List Regex) : (sequence l).consumes = l.any consumes := by
  induction l using sequence.induct with
  | case1 => rfl
  | case2 r => simp [sequence]
  | case3 r rest hRest ih => simp [sequence, consumes, ih]

theorem matches_empty_iff : Matches h .empty p q m ↔ q = p ∧ m = [] := by
  constructor
  · rintro ⟨⟩
    exact ⟨rfl, rfl⟩
  · rintro ⟨rfl, rfl⟩
    exact .empty _

theorem matches_set_iff {s : CharSet} :
    Matches h (.set s) p q m ↔ (∃ c, h[p]? = some c ∧ s.contains c = true) ∧ q = p + 1 ∧ m = [] := by
  constructor
  · rintro ⟨⟩
    exact ⟨⟨_, ‹_›, ‹_›⟩, rfl, rfl⟩
  · rintro ⟨⟨c, hChar, hMem⟩, rfl, rfl⟩
    exact .set hChar hMem

/-- An assertion takes nothing and holds at a position or not. -/
theorem matches_look_iff {l : Look} {ascii : Bool} :
    Matches h (.look l ascii) p q m ↔
      l.holds (if ascii then isAsciiWord else isWord) h p = true ∧ q = p ∧ m = [] := by
  constructor
  · rintro ⟨⟩
    exact ⟨‹_›, rfl, rfl⟩
  · rintro ⟨hHolds, rfl, rfl⟩
    exact .look hHolds

/-- A group marks its start and its end. The marks that were set last come first. -/
theorem matches_capture_iff {i : Nat} {r : Regex} :
    Matches h (.capture i r) p q m ↔
      ∃ m', r.Matches h p q m' ∧ m = (2 * i + 1, q) :: (m' ++ [(2 * i, p)]) := by
  constructor
  · rintro ⟨⟩
    exact ⟨_, ‹_›, rfl⟩
  · rintro ⟨m', body, rfl⟩
    exact .capture body

theorem matches_alt_iff {a b : Regex} :
    Matches h (.alt a b) p q m ↔ a.Matches h p q m ∨ b.Matches h p q m := by
  constructor
  · intro way
    cases way with
    | left branch => exact .inl branch
    | right branch => exact .inr branch
  · rintro (branch | branch)
    · exact .left branch
    · exact .right branch

/-- An option matches what its body does, or nothing. That it is greedy or not has no part in what
it can match, and only in what it prefers. -/
theorem matches_option_iff {greedy : Bool} {r : Regex} :
    Matches h (.option greedy r) p q m ↔ r.Matches h p q m ∨ (q = p ∧ m = []) := by
  have hOrdered : Matches h (.option greedy r) p q m ↔
      Matches h (ordered greedy r .empty) p q m := by
    constructor
    · rintro ⟨⟩
      assumption
    · exact .option
  rw [hOrdered]
  cases greedy <;> simp [ordered, matches_alt_iff, matches_empty_iff, or_comm]

theorem matches_sequence_nil : (sequence []).Matches h p q m ↔ q = p ∧ m = [] := matches_empty_iff

/-- A sequence splits at a position between its first item and the others. -/
theorem matches_sequence_cons (r : Regex) (l : List Regex) :
    (sequence (r :: l)).Matches h p q m ↔ ∃ s m₁ m₂, r.Matches h p s m₁ ∧
      (sequence l).Matches h s q m₂ ∧ m = m₂ ++ m₁ := by
  cases l with
  | nil => simp [sequence, matches_empty_iff]
  | cons a l =>
      constructor
      · intro way
        cases way with
        | seq first second => exact ⟨_, _, _, first, second, rfl⟩
      · rintro ⟨s, m₁, m₂, first, second, rfl⟩
        exact .seq first second

/-- A sequence may be split between any two of its items. -/
theorem matches_sequence_append (l l' : List Regex) :
    (sequence (l ++ l')).Matches h p q m ↔ ∃ s m₁ m₂, (sequence l).Matches h p s m₁ ∧
      (sequence l').Matches h s q m₂ ∧ m = m₂ ++ m₁ := by
  induction l generalizing p m with
  | nil => simp [matches_sequence_nil]
  | cons r l ih =>
      simp only [List.cons_append, matches_sequence_cons, ih]
      constructor
      · rintro ⟨s, m₁, _, first, ⟨s', m₂, m₃, second, rest, rfl⟩, rfl⟩
        exact ⟨s', m₂ ++ m₁, m₃, ⟨s, m₁, m₂, first, second, rfl⟩, rest, by simp⟩
      · rintro ⟨s', _, m₃, ⟨s, m₁, m₂, first, second, rfl⟩, rest, rfl⟩
        exact ⟨s, m₁, m₃ ++ m₂, first, ⟨s', m₂, m₃, second, rest, rfl⟩, by simp⟩

theorem goes_sequence_nil : (sequence []).Goes h K = K := by
  funext p
  simp [Goes, matches_sequence_nil]

/-- A sequence goes through where its first item does, with the others to follow. -/
theorem goes_sequence_cons (r : Regex) (l : List Regex) :
    (sequence (r :: l)).Goes h K = r.Goes h ((sequence l).Goes h K) := by
  funext p
  simp only [Goes, matches_sequence_cons, eq_iff_iff]
  constructor
  · rintro ⟨q, _, ⟨s, m₁, m₂, first, second, rfl⟩, hK⟩
    exact ⟨s, m₁, first, q, m₂, second, hK⟩
  · rintro ⟨s, m₁, first, q, m₂, second, hK⟩
    exact ⟨q, m₂ ++ m₁, ⟨s, m₁, m₂, first, second, rfl⟩, hK⟩

theorem goes_capture (i : Nat) (r : Regex) : (capture i r).Goes h K = r.Goes h K := by
  funext p
  simp only [Goes, matches_capture_iff, eq_iff_iff]
  constructor
  · rintro ⟨q, _, ⟨m, body, rfl⟩, hK⟩
    exact ⟨q, m, body, hK⟩
  · rintro ⟨q, m, body, hK⟩
    exact ⟨q, _, ⟨m, body, rfl⟩, hK⟩

/-- The first item of a sequence prefers the earliest way from which the others can go on, and the
others then prefer theirs. -/
theorem prefers_sequence_cons (r : Regex) (l : List Regex)
    (way : (sequence (r :: l)).Prefers h K p q m) : ∃ s m₁ m₂,
      r.Prefers h ((sequence l).Goes h K) p s m₁ ∧ (sequence l).Prefers h K s q m₂ ∧
        m = m₂ ++ m₁ := by
  cases l with
  | nil =>
      rw [goes_sequence_nil]
      exact ⟨q, m, [], way, .empty way.matches.2, rfl⟩
  | cons a l =>
      cases way with
      | seq first second => exact ⟨_, _, _, first, second, rfl⟩

theorem goes_sequence_append (l l' : List Regex) :
    (sequence (l ++ l')).Goes h K = (sequence l).Goes h ((sequence l').Goes h K) := by
  induction l with
  | nil => rw [List.nil_append, goes_sequence_nil]
  | cons r l ih => rw [List.cons_append, goes_sequence_cons, goes_sequence_cons, ih]

/-- The same between any two items. What is left of the preference of the front is that the back can
still go on. -/
theorem prefers_sequence_append (l l' : List Regex)
    (way : (sequence (l ++ l')).Prefers h K p q m) : ∃ s m₁ m₂,
      (sequence l).Prefers h ((sequence l').Goes h K) p s m₁ ∧
        (sequence l').Prefers h K s q m₂ ∧ m = m₂ ++ m₁ := by
  induction l generalizing p m with
  | nil => exact ⟨p, [], m, .empty ⟨q, m, way.matches⟩, way, by simp⟩
  | cons r l ih =>
      rw [List.cons_append] at way
      obtain ⟨s, m₁, _, first, rest, rfl⟩ := prefers_sequence_cons _ _ way
      obtain ⟨s', m₂, m₃, second, last, rfl⟩ := ih rest
      refine ⟨s', m₂ ++ m₁, m₃, ?_, last, by simp⟩
      rw [goes_sequence_append] at first
      cases l with
      | nil =>
          obtain ⟨rfl, rfl⟩ := matches_sequence_nil.mp second.matches.1
          rw [goes_sequence_nil] at first
          exact first
      | cons a l => exact .seq first second

/-- Three expressions, each in a group. -/
def grouped (a b c : Regex) : Regex := sequence [capture 1 a, capture 2 b, capture 3 c]

/-- The marks of three groups that meet at `i` and `j`. -/
def groupMarks (p i j q : Nat) : List (Nat × Nat) :=
  [(7, q), (6, j), (5, j), (4, i), (3, i), (2, p)]

/-- A group prefers what its body does and adds its two marks. -/
theorem prefers_capture {i : Nat} {r : Regex} (hBare : r.Bare)
    (way : Prefers h (.capture i r) K p q m) :
    r.Prefers h K p q [] ∧ m = [(2 * i + 1, q), (2 * i, p)] := by
  cases way with
  | capture body =>
      obtain rfl := body.matches.1.marks_of_bare hBare
      exact ⟨body, rfl⟩

/-- A match of three groups is cut where they meet. -/
theorem prefers_grouped {a b c : Regex} (ha : a.Bare) (hb : b.Bare) (hc : c.Bare)
    (way : (grouped a b c).Prefers h K p q m) : ∃ i j,
      a.Prefers h (b.Goes h (c.Goes h K)) p i [] ∧ b.Prefers h (c.Goes h K) i j [] ∧
        c.Prefers h K j q [] ∧ m = groupMarks p i j q := by
  obtain ⟨i, m₁, _, first, rest, rfl⟩ := prefers_sequence_cons _ _ way
  obtain ⟨j, m₂, _, second, last, rfl⟩ := prefers_sequence_cons _ _ rest
  obtain ⟨k, m₃, m₄, third, done, rfl⟩ := prefers_sequence_cons _ _ last
  obtain ⟨rfl, rfl⟩ := matches_sequence_nil.mp done.matches.1
  simp only [goes_sequence_cons, goes_capture, goes_sequence_nil] at first second third
  obtain ⟨ofFirst, rfl⟩ := prefers_capture ha first
  obtain ⟨ofSecond, rfl⟩ := prefers_capture hb second
  obtain ⟨ofThird, rfl⟩ := prefers_capture hc third
  exact ⟨i, j, ofFirst, ofSecond, ofThird, rfl⟩

/-- The text from `p` up to `q` is made of characters of one kind. -/
structure Run (kind : Char → Bool) (h : Array Char) (p q : Nat) : Prop where
  le : p ≤ q
  each : ∀ i, p ≤ i → i < q → ∃ c, h[i]? = some c ∧ kind c = true

namespace Run

variable {kind : Char → Bool}

/-- An empty stretch is a run of any kind. -/
theorem refl (p : Nat) : Run kind h p p := ⟨Nat.le_refl p, fun i hFrom hTo => by omega⟩

theorem cons {c : Char} (hChar : h[p]? = some c) (hKind : kind c = true)
    (rest : Run kind h (p + 1) q) : Run kind h p q := by
  refine ⟨Nat.le_of_succ_le rest.le, ?_⟩
  intro i hFrom hTo
  rcases Nat.eq_or_lt_of_le hFrom with rfl | hLater
  · exact ⟨c, hChar, hKind⟩
  · exact rest.each i hLater hTo

/-- A run that is not empty starts with a character of its kind, and the rest is a run. -/
theorem head (run : Run kind h p q) (hLess : p < q) :
    (∃ c, h[p]? = some c ∧ kind c = true) ∧ Run kind h (p + 1) q :=
  ⟨run.each p (Nat.le_refl p) hLess, hLess, fun i hFrom hTo => run.each i (by omega) hTo⟩

theorem imp {kind' : Char → Bool} (run : Run kind h p q)
    (hKind : ∀ c, kind c = true → kind' c = true) : Run kind' h p q := by
  refine ⟨run.le, fun i hFrom hTo => ?_⟩
  obtain ⟨c, hChar, hc⟩ := run.each i hFrom hTo
  exact ⟨c, hChar, hKind c hc⟩

theorem trans {s : Nat} (first : Run kind h p q) (second : Run kind h q s) : Run kind h p s := by
  refine ⟨Nat.le_trans first.le second.le, ?_⟩
  intro i hFrom hTo
  by_cases hi : i < q
  · exact first.each i hFrom hi
  · exact second.each i (by omega) hTo

/-- A stretch inside a run is one. -/
theorem mono {p' q' : Nat} (run : Run kind h p q) (hFrom : p ≤ p') (hLe : p' ≤ q') (hTo : q' ≤ q) :
    Run kind h p' q' :=
  ⟨hLe, fun i hi hi' => run.each i (by omega) (by omega)⟩

/-- A run of one kind of character and a run of all others have no place in common. -/
theorem false_of_not {p' q' : Nat} (run : Run kind h p q) (run' : Run (!kind ·) h p' q') (i : Nat)
    (hIn : p ≤ i ∧ i < q) (hIn' : p' ≤ i ∧ i < q') : False := by
  obtain ⟨c, hChar, hKind⟩ := run.each i hIn.1 hIn.2
  obtain ⟨d, hChar', hKind'⟩ := run'.each i hIn'.1 hIn'.2
  rw [hChar] at hChar'
  obtain rfl := Option.some.inj hChar'
  simp [hKind] at hKind'

/-- Among the runs that end at a place there is a longest one. -/
theorem exists_longest (kind : Char → Bool) (h : Array Char) (q : Nat) :
    ∃ p, Run kind h p q ∧ ∀ i, Run kind h i q → p ≤ i := by
  classical
  have hSome : ∃ p, Run kind h p q := ⟨q, .refl q⟩
  exact ⟨Nat.find hSome, Nat.find_spec hSome, fun i hi => Nat.find_min' hSome hi⟩

/-- In front of the longest run there is no character of its kind. -/
theorem before_longest (run : Run kind h p q) (hMost : ∀ i, Run kind h i q → p ≤ i) :
    ∀ c, charBefore h p = some c → kind c = false := by
  intro c hBefore
  rw [charBefore] at hBefore
  split at hBefore
  · cases hBefore
  rename_i hPos
  rw [← Bool.not_eq_true]
  intro hKind
  have longer : Run kind h (p - 1) q := by
    refine .cons hBefore hKind ?_
    rwa [Nat.sub_add_cancel (Nat.pos_of_ne_zero hPos)]
  have := hMost _ longer
  omega

/-- It is not empty where there is one in front. -/
theorem longest_lt (run : Run kind h p q) (hMost : ∀ i, Run kind h i q → p ≤ i) {c : Char}
    (hBefore : charBefore h q = some c) (hKind : kind c = true) : p < q := by
  by_contra hNone
  obtain rfl : p = q := Nat.le_antisymm run.le (Nat.not_lt.mp hNone)
  rw [run.before_longest hMost c hBefore] at hKind
  cases hKind

theorem le_size (run : Run kind h p q) (hp : p ≤ h.size) : q ≤ h.size := by
  rcases Nat.eq_or_lt_of_le run.le with rfl | hLess
  · exact hp
  · obtain ⟨c, hChar, -⟩ := run.each (q - 1) (by omega) (by omega)
    have := (Array.getElem?_eq_some_iff.mp hChar).1
    omega

end Run

section Repeated

variable {s : CharSet}

private theorem matches_loop_iff {greedy : Bool} {r : Regex} :
    Matches h (.loop greedy r) p q m ↔
      ∃ k m₁ m₂, r.Matches h p k m₁ ∧ (star greedy r).Matches h k q m₂ ∧ m = m₂ ++ m₁ := by
  constructor
  · intro way
    cases way with
    | loop rounds =>
        cases rounds with
        | seq first second => exact ⟨_, _, _, first, second, rfl⟩
  · rintro ⟨k, m₁, m₂, first, second, rfl⟩
    exact .loop (.seq first second)

/-- A repeated class matches the runs of its characters, the empty one included. That it is greedy
does not show here. -/
theorem matches_star_set_iff {greedy : Bool} :
    (star greedy (.set s)).Matches h p q m ↔ Run s.contains h p q ∧ m = [] := by
  constructor
  · intro way
    induction hLength : q - p using Nat.strongRecOn generalizing p m with
    | ind n ih =>
        rcases matches_option_iff.mp way with rounds | ⟨rfl, rfl⟩
        · obtain ⟨k, m₁, m₂, first, second, rfl⟩ := matches_loop_iff.mp rounds
          obtain ⟨⟨c, hChar, hMem⟩, rfl, rfl⟩ := matches_set_iff.mp first
          have := second.le
          obtain ⟨run, rfl⟩ := ih (q - (p + 1)) (by omega) second rfl
          exact ⟨run.cons hChar hMem, rfl⟩
        · exact ⟨.refl q, rfl⟩
  · rintro ⟨run, rfl⟩
    induction hLength : q - p generalizing p with
    | zero =>
        obtain rfl : q = p := by have := run.le; omega
        exact matches_option_iff.mpr (.inr ⟨rfl, rfl⟩)
    | succ n ih =>
        obtain ⟨⟨c, hChar, hMem⟩, rest⟩ := run.head (by omega)
        exact matches_option_iff.mpr (.inl (matches_loop_iff.mpr
          ⟨p + 1, [], [], .set hChar hMem, ih rest (by omega), rfl⟩))

/-- With one item at least, the run is not empty. -/
theorem matches_loop_set_iff {greedy : Bool} :
    Matches h (.loop greedy (.set s)) p q m ↔ Run s.contains h p q ∧ p < q ∧ m = [] := by
  rw [matches_loop_iff]
  constructor
  · rintro ⟨k, m₁, m₂, first, second, rfl⟩
    obtain ⟨⟨c, hChar, hMem⟩, rfl, rfl⟩ := matches_set_iff.mp first
    obtain ⟨run, rfl⟩ := matches_star_set_iff.mp second
    exact ⟨run.cons hChar hMem, run.le, rfl⟩
  · rintro ⟨run, hLess, rfl⟩
    obtain ⟨⟨c, hChar, hMem⟩, rest⟩ := run.head hLess
    exact ⟨p + 1, [], [], .set hChar hMem, matches_star_set_iff.mpr ⟨rest, rfl⟩, rfl⟩

private theorem Prefers.loop_cases {greedy : Bool} {r : Regex}
    (way : Prefers h (.loop greedy r) K p q m) : ∃ k m₁ m₂,
      r.Prefers h ((star greedy r).Goes h K) p k m₁ ∧ (star greedy r).Prefers h K k q m₂ ∧
        m = m₂ ++ m₁ := by
  cases way with
  | loop rounds =>
      cases rounds with
      | seq first second => exact ⟨_, _, _, first, second, rfl⟩

/-- A greedy repetition stops at the last place where the rest can match. -/
theorem Prefers.greatest_star (way : (star true (.set s)).Prefers h K p q m) :
    Run s.contains h p q ∧ K q ∧ ∀ k, Run s.contains h p k → K k → k ≤ q := by
  refine ⟨(matches_star_set_iff.mp way.matches.1).1, way.matches.2, ?_⟩
  intro k run hk
  induction hLength : k - p generalizing p m with
  | zero =>
      have := way.matches.1.le
      omega
  | succ n ih =>
      obtain ⟨⟨c, hChar, hMem⟩, rest⟩ := run.head (by omega)
      cases way with
      | option choice =>
          cases choice with
          | left round =>
              obtain ⟨k', m₁, m₂, first, second, -⟩ := round.loop_cases
              obtain ⟨-, rfl, -⟩ := matches_set_iff.mp first.matches.1
              exact ih second rest (by omega)
          | right hLeft _ =>
              exact absurd ⟨k, [], matches_loop_set_iff.mpr ⟨run, by omega, rfl⟩, hk⟩ hLeft

/-- So does a greedy loop. -/
theorem Prefers.greatest_loop (way : Prefers h (.loop true (.set s)) K p q m) :
    Run s.contains h p q ∧ p < q ∧ K q ∧ ∀ k, Run s.contains h p k → p < k → K k → k ≤ q := by
  obtain ⟨run, hLess, -⟩ := matches_loop_set_iff.mp way.matches.1
  refine ⟨run, hLess, way.matches.2, ?_⟩
  intro k run' hLess' hk
  obtain ⟨k', m₁, m₂, first, second, -⟩ := way.loop_cases
  obtain ⟨-, rfl, -⟩ := matches_set_iff.mp first.matches.1
  exact (Prefers.greatest_star second).2.2 k (run'.head hLess').2 hk

end Repeated

end Expurgate.Regex
