import Expurgate.AllowList
import Expurgate.Proofs.Unicode.Casing

/-! Words that are allowed in any case. They are compared in lower case, and patterns by case folding,
so a word that a pattern takes for an allowed one is allowed only if lower case agrees. -/
namespace Expurgate

open Unicode

namespace AllowList

variable {e : String} {w : List Char}

/-- What is asked of a word is stated about the words of the configuration: it is one of them as it
stands, or its lower case is that of one that is given for any case. -/
theorem contains_ofEntries_iff {a : AllowEntries} : (ofEntries a).contains w = true ↔
    String.ofList w ∈ a.caseSensitive ∨
      ∃ e ∈ a.caseInsensitive, toLower e = toLower (String.ofList w) := by
  simp [contains, ofEntries]

/-- A word that is equal up to case to one that is allowed in any case is allowed for sure exactly if
both have the same variants at the same places. -/
theorem contains_foldEq_iff (hEq : FoldEq e.toList w) :
    (∀ a : AllowEntries, e ∈ a.caseInsensitive → (ofEntries a).contains w = true) ↔
      variantsIn e.toList = variantsIn w := by
  rw [← toLower_eq_iff hEq, String.ofList_toList]
  constructor
  · intro hAllowed
    -- A list with no other word does not know this one from elsewhere.
    have hAlone := contains_ofEntries_iff.mp (hAllowed ⟨[], [e]⟩ (List.mem_singleton.mpr rfl))
    simpa using hAlone
  · intro hLower a hMem
    exact contains_ofEntries_iff.mpr (.inr ⟨e, hMem, hLower⟩)

/-- The last sigma of a word is the final one, in capitals as well. -/
theorem contains_foldEq_iff_final : FoldEq "ΟΔΟΣ".toList "οδος".toList ∧
    ∀ a : AllowEntries, "ΟΔΟΣ" ∈ a.caseInsensitive → (ofEntries a).contains "οδος".toList = true := by
  have hEq : FoldEq "ΟΔΟΣ".toList "οδος".toList := by decide
  have hVariants : variantsIn "ΟΔΟΣ".toList = variantsIn "οδος".toList := by decide
  exact ⟨hEq, (contains_foldEq_iff hEq).mpr hVariants⟩

/-- A long s folds to the short one, but it is a small letter of its own. -/
theorem not_forall_contains_foldEq :
    ¬∀ (a : AllowEntries) (e : String) (w : List Char), e ∈ a.caseInsensitive →
      FoldEq e.toList w → (ofEntries a).contains w = true := by
  intro hAll
  have hLong := hAll ⟨[], ["congress"]⟩ "congress" "congreſs".toList (List.mem_singleton.mpr rfl)
    (by decide)
  revert hLong
  decide

end AllowList

end Expurgate
