import Expurgate.Regex.Search
import Mathlib.Tactic.Common

/-! What a regular expression matches, and which way of matching it prefers. Both are told without
reference to programs. A preference depends on what is to follow: of two branches the first is taken
if some way of matching it lets the rest of the expression match. -/
namespace Expurgate.Regex

open Unicode

variable {h : Array Char}

def ordered (greedy : Bool) (round leave : Regex) : Regex :=
  if greedy then .alt round leave else .alt leave round

/-- A way to match from one position to another, with the marks it sets, the latest first. -/
inductive Matches (h : Array Char) : Regex → Nat → Nat → List (Nat × Nat) → Prop where
  | empty (p : Nat) : Matches h .empty p p []
  | set {s : CharSet} {p : Nat} {c : Char} (hChar : h[p]? = some c)
      (hMem : s.contains c = true) : Matches h (.set s) p (p + 1) []
  | look {l : Look} {ascii : Bool} {p : Nat}
      (hHolds : l.holds (if ascii then isAsciiWord else isWord) h p = true) :
      Matches h (.look l ascii) p p []
  | capture {i : Nat} {r : Regex} {p q : Nat} {m : List (Nat × Nat)} (body : Matches h r p q m) :
      Matches h (.capture i r) p q ((2 * i + 1, q) :: (m ++ [(2 * i, p)]))
  | seq {a b : Regex} {p q s : Nat} {m m' : List (Nat × Nat)} (first : Matches h a p q m)
      (second : Matches h b q s m') : Matches h (.seq a b) p s (m' ++ m)
  | left {a b : Regex} {p q : Nat} {m : List (Nat × Nat)} (branch : Matches h a p q m) :
      Matches h (.alt a b) p q m
  | right {a b : Regex} {p q : Nat} {m : List (Nat × Nat)} (branch : Matches h b p q m) :
      Matches h (.alt a b) p q m
  | option {greedy : Bool} {r : Regex} {p q : Nat} {m : List (Nat × Nat)}
      (choice : Matches h (ordered greedy r .empty) p q m) : Matches h (.option greedy r) p q m
  | loop {greedy : Bool} {r : Regex} {p q : Nat} {m : List (Nat × Nat)}
      (rounds : Matches h (.seq r (.option greedy (.loop greedy r))) p q m) :
      Matches h (.loop greedy r) p q m

/-- Some way of matching from `p` ends where `K` holds. -/
def Goes (h : Array Char) (r : Regex) (K : Nat → Prop) (p : Nat) : Prop :=
  ∃ q m, r.Matches h p q m ∧ K q

/-- The preferred way to match among those that end where `K` holds. -/
inductive Prefers (h : Array Char) :
    Regex → (Nat → Prop) → Nat → Nat → List (Nat × Nat) → Prop where
  | empty {K : Nat → Prop} {p : Nat} (hK : K p) : Prefers h .empty K p p []
  | set {s : CharSet} {K : Nat → Prop} {p : Nat} {c : Char} (hChar : h[p]? = some c)
      (hMem : s.contains c = true) (hK : K (p + 1)) : Prefers h (.set s) K p (p + 1) []
  | look {l : Look} {ascii : Bool} {K : Nat → Prop} {p : Nat}
      (hHolds : l.holds (if ascii then isAsciiWord else isWord) h p = true) (hK : K p) :
      Prefers h (.look l ascii) K p p []
  | capture {i : Nat} {r : Regex} {K : Nat → Prop} {p q : Nat} {m : List (Nat × Nat)}
      (body : Prefers h r K p q m) :
      Prefers h (.capture i r) K p q ((2 * i + 1, q) :: (m ++ [(2 * i, p)]))
  | seq {a b : Regex} {K : Nat → Prop} {p q s : Nat} {m m' : List (Nat × Nat)}
      (first : Prefers h a (b.Goes h K) p q m) (second : Prefers h b K q s m') :
      Prefers h (.seq a b) K p s (m' ++ m)
  | left {a b : Regex} {K : Nat → Prop} {p q : Nat} {m : List (Nat × Nat)}
      (branch : Prefers h a K p q m) : Prefers h (.alt a b) K p q m
  | right {a b : Regex} {K : Nat → Prop} {p q : Nat} {m : List (Nat × Nat)}
      (hLeft : ¬a.Goes h K p) (branch : Prefers h b K p q m) : Prefers h (.alt a b) K p q m
  | option {greedy : Bool} {r : Regex} {K : Nat → Prop} {p q : Nat} {m : List (Nat × Nat)}
      (choice : Prefers h (ordered greedy r .empty) K p q m) :
      Prefers h (.option greedy r) K p q m
  | loop {greedy : Bool} {r : Regex} {K : Nat → Prop} {p q : Nat} {m : List (Nat × Nat)}
      (rounds : Prefers h (.seq r (.option greedy (.loop greedy r))) K p q m) :
      Prefers h (.loop greedy r) K p q m

/-- What an expression prefers is one of the ways in which it matches, and one that can be
continued. -/
theorem Prefers.matches {r : Regex} {K : Nat → Prop} {p q : Nat} {m : List (Nat × Nat)}
    (way : r.Prefers h K p q m) : r.Matches h p q m ∧ K q := by
  induction way with
  | empty hK => exact ⟨.empty _, hK⟩
  | set hChar hMem hK => exact ⟨.set hChar hMem, hK⟩
  | look hHolds hK => exact ⟨.look hHolds, hK⟩
  | capture _ ih => exact ⟨.capture ih.1, ih.2⟩
  | seq _ _ ihFirst ihSecond => exact ⟨.seq ihFirst.1 ihSecond.1, ihSecond.2⟩
  | left _ ih => exact ⟨.left ih.1, ih.2⟩
  | right _ _ ih => exact ⟨.right ih.1, ih.2⟩
  | option _ ih => exact ⟨.option ih.1, ih.2⟩
  | loop _ ih => exact ⟨.loop ih.1, ih.2⟩

theorem Matches.le {r : Regex} {p q : Nat} {m : List (Nat × Nat)} (way : r.Matches h p q m) :
    p ≤ q := by
  induction way with
  | empty | look => exact Nat.le_refl _
  | set => exact Nat.le_succ _
  | seq _ _ ihFirst ihSecond => exact Nat.le_trans ihFirst ihSecond
  | capture _ ih | left _ ih | right _ ih | option _ ih | loop _ ih => exact ih

/-- Nothing matches beyond the end of the text. -/
theorem Matches.le_size {r : Regex} {p q : Nat} {m : List (Nat × Nat)} (way : r.Matches h p q m)
    (hp : p ≤ h.size) : q ≤ h.size := by
  induction way with
  | empty | look => exact hp
  | set hChar => exact (Array.getElem?_eq_some_iff.mp hChar).1
  | seq _ _ ihFirst ihSecond => exact ihSecond (ihFirst hp)
  | capture _ ih | left _ ih | right _ ih | option _ ih | loop _ ih => exact ih hp

/-- Every way to match reads at least one character, as the tree shows. -/
def consumes : Regex → Bool
  | set _ => true
  | empty | look _ _ | option _ _ => false
  | capture _ r | loop _ r => r.consumes
  | seq a b => a.consumes || b.consumes
  | alt a b => a.consumes && b.consumes

/-- An expression that consumes takes a character at least. It is told from the expression alone. -/
theorem Matches.lt_of_consumes {r : Regex} {p q : Nat} {m : List (Nat × Nat)}
    (way : r.Matches h p q m) (hConsumes : r.consumes = true) : p < q := by
  induction way with
  | empty | look => simp [consumes] at hConsumes
  | set => exact Nat.lt_succ_self _
  | seq first second ihFirst ihSecond =>
      rcases (Bool.or_eq_true _ _).mp hConsumes with hFirst | hSecond
      · exact Nat.lt_of_lt_of_le (ihFirst hFirst) second.le
      · exact Nat.lt_of_le_of_lt first.le (ihSecond hSecond)
  | left _ ih => exact ih ((Bool.and_eq_true _ _).mp hConsumes).1
  | right _ ih => exact ih ((Bool.and_eq_true _ _).mp hConsumes).2
  | capture _ ih => exact ih hConsumes
  | option => simp [consumes] at hConsumes
  | loop _ ih => exact ih (by simpa [consumes] using hConsumes)

/-- Each round of each loop reads at least one character. -/
def Productive : Regex → Prop
  | empty | set _ | look _ _ => True
  | capture _ r | option _ r => r.Productive
  | seq a b | alt a b => a.Productive ∧ b.Productive
  | loop _ r => r.Productive ∧ r.consumes = true

def Bare : Regex → Prop
  | empty | set _ | look _ _ => True
  | capture _ _ => False
  | seq a b | alt a b => a.Bare ∧ b.Bare
  | option _ r | loop _ r => r.Bare

/-- An expression without groups sets no marks. -/
theorem Matches.marks_of_bare {r : Regex} {p q : Nat} {m : List (Nat × Nat)}
    (way : r.Matches h p q m) (hBare : r.Bare) : m = [] := by
  induction way with
  | empty | set | look => rfl
  | capture => exact hBare.elim
  | seq _ _ ihFirst ihSecond => simp [ihFirst hBare.1, ihSecond hBare.2]
  | left _ ih => exact ih hBare.1
  | right _ ih => exact ih hBare.2
  | @option greedy r _ _ _ _ ih =>
      apply ih
      cases greedy
      · exact ⟨trivial, hBare⟩
      · exact ⟨hBare, trivial⟩
  | loop _ ih => exact ih ⟨hBare, hBare⟩

end Expurgate.Regex
