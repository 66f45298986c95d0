import Expurgate.Unicode.Folding
import Mathlib.Data.List.Forall2
import Mathlib.Tactic.Common

/-! The orbit of a character is the set of characters that fold alike. Nothing about the folding
table matters for this, only how it is read. -/
namespace Expurgate.Unicode

/-- The number that a run maps to another one is found again from it, as the stride of the run is
known. -/
theorem CaseRun.preimage?_of_image? {r : CaseRun} {n t : Nat} (hImage : r.image? n = some t) :
    r.preimage? t = some n := by
  have hBounds : r.first ≤ n ∧ t = r.target + (n - r.first) := by
    rw [image?] at hImage
    split at hImage
    · rename_i hIn
      exact ⟨hIn.1, (Option.some.inj hImage).symm⟩
    · simp at hImage
  have hn : r.first + (t - r.target) = n := by omega
  rw [preimage?, hn]
  simp [hImage]

/-- A mapping leaves a code point in its place or takes it where one of the runs does. -/
theorem CaseRun.map_cases (runs : List CaseRun) (n : Nat) :
    map runs n = n ∨ ∃ r ∈ runs, r.image? n = some (map runs n) := by
  induction runs with
  | nil => exact .inl rfl
  | cons r rest ih =>
      rw [map]
      by_cases hBefore : n < r.first
      · exact .inl (if_pos hBefore)
      · rw [if_neg hBefore]
        cases hImage : r.image? n with
        | some m => exact .inr ⟨r, by simp, hImage⟩
        | none =>
            rcases ih with hSame | ⟨s, hs, hMap⟩
            · exact .inl hSame
            · exact .inr ⟨s, by simp [hs], hMap⟩

/-- The orbit of a number is all that folds as it does. The runs that could lead to its folding are
enough to find it, without a search through all characters. -/
theorem mem_orbit {n m : Nat} : m ∈ orbit n ↔ fold m = fold n := by
  rw [orbit, List.mem_filter, decide_eq_true_eq]
  refine ⟨And.right, fun hFold => ⟨?_, hFold⟩⟩
  rcases CaseRun.map_cases Table.folding m with hSame | ⟨r, hr, hImage⟩
  · exact List.mem_cons.mpr (.inl (hSame.symm.trans hFold))
  · refine List.mem_cons_of_mem _ (List.mem_filterMap.mpr ⟨r, hr, ?_⟩)
    exact CaseRun.preimage?_of_image? (hImage.trans (congrArg some hFold))

/-- To compare two characters without their case is to compare what they fold to. -/
theorem sameFold_iff {c d : Char} : sameFold c d = true ↔ fold c.toNat = fold d.toNat := by
  simp [sameFold]

theorem sameFold_refl (c : Char) : sameFold c c = true := sameFold_iff.mpr rfl

theorem sameFold_comm (c d : Char) : sameFold c d = sameFold d c := by
  rw [Bool.eq_iff_iff, sameFold_iff, sameFold_iff, eq_comm]

/-- To fold alike is an equivalence, because it is to have the same folding. Pairs from a table
would have had to be closed first. -/
theorem sameFold_trans {c d e : Char} (hcd : sameFold c d = true) (hde : sameFold d e = true) :
    sameFold c e = true :=
  sameFold_iff.mpr ((sameFold_iff.mp hcd).trans (sameFold_iff.mp hde))

/-- Texts that are equal up to case, character by character. -/
def FoldEq (l l' : List Char) : Prop := List.Forall₂ (fun c d => sameFold c d = true) l l'

instance (l l' : List Char) : Decidable (FoldEq l l') :=
  inferInstanceAs (Decidable (List.Forall₂ (fun c d => sameFold c d = true) l l'))

namespace FoldEq

variable {l l' l'' : List Char}

theorem refl (l : List Char) : FoldEq l l := List.forall₂_same.mpr fun c _ => sameFold_refl c

theorem symm (hEq : FoldEq l l') : FoldEq l' l := by
  induction hEq with
  | nil => exact .nil
  | cons hHead _ ih => exact .cons (by rwa [sameFold_comm]) ih

theorem trans (hFirst : FoldEq l l') (hSecond : FoldEq l' l'') : FoldEq l l'' := by
  induction hFirst generalizing l'' with
  | nil =>
      cases hSecond
      exact .nil
  | cons hHead _ ih =>
      cases hSecond with
      | cons hHead' hTail' => exact .cons (sameFold_trans hHead hHead') (ih hTail')

theorem length_eq (hEq : FoldEq l l') : l.length = l'.length := List.Forall₂.length_eq hEq

/-- Each letter of a word has one in a word that folds alike. -/
theorem exists_mem (hEq : FoldEq l l') {c : Char} (hc : c ∈ l) :
    ∃ d ∈ l', sameFold c d = true := by
  induction hEq with
  | nil => simp at hc
  | @cons e d _ _ hSame _ ih =>
      rcases List.mem_cons.mp hc with rfl | hRest
      · exact ⟨d, by simp, hSame⟩
      · obtain ⟨d', hd', hSame'⟩ := ih hRest
        exact ⟨d', List.mem_cons_of_mem _ hd', hSame'⟩

/-- Where one of two equal texts is cut, the other can be cut. -/
theorem exists_append (hEq : FoldEq (l ++ l') l'') :
    ∃ a b, l'' = a ++ b ∧ FoldEq l a ∧ FoldEq l' b := by
  induction l generalizing l'' with
  | nil => exact ⟨[], l'', rfl, .nil, hEq⟩
  | cons c rest ih =>
      cases hEq with
      | @cons _ d _ _ hSame hRest =>
          obtain ⟨a, b, rfl, hFirst, hSecond⟩ := ih hRest
          exact ⟨d :: a, b, rfl, .cons hSame hFirst, hSecond⟩

end FoldEq

/-- The punctuation that the patterns of terms are made of. -/
def patternMarks : List Char := [' ', '_', '-', '.', ',', '\'', '"', '+', '!', '?', '|']

/-- The marks of the pattern language have no case, so they are the same in every expression. -/
theorem orbit_patternMarks : (patternMarks.all fun c => orbit c.toNat == [c.toNat]) = true := by
  decide +kernel

/-- Punctuation has no case, so nothing else is equal to it up to case. -/
theorem sameFold_patternMark {c d : Char} (hMark : c ∈ patternMarks) :
    sameFold c d = true ↔ d = c := by
  have hOrbit := beq_iff_eq.mp (List.all_eq_true.mp orbit_patternMarks c hMark)
  rw [sameFold_iff, eq_comm, ← mem_orbit, hOrbit, List.mem_singleton]
  exact Char.toNat_inj

end Expurgate.Unicode
