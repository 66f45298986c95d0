import Expurgate.Proofs.Unicode.Classes

/-! Capitals are letters, and lower case against case folding. Lower case keeps some small letters
apart that fold alike, such as the two small sigmas. Texts that are equal up to case have the same
lower case exactly if they have these letters at the same places. -/
namespace Expurgate.Unicode

theorem isAlphabetic_of_isUpper {c : Char} (hUpper : isUpper c = true) : isAlphabetic c = true := by
  have hWithin : Table.uppercase.within Table.alphabetic = true := by decide +kernel
  have hTidy : Table.uppercase.tidy = true := by decide +kernel
  have hTidy' : Table.alphabetic.tidy = true := by decide +kernel
  exact Ranges.contains_of_within hWithin (Ranges.ascending_of_tidy hTidy)
    (Ranges.ascending_of_tidy hTidy') hUpper

/-- The small letters that fold to another small letter. They are their own lower case. -/
def variants : List Char :=
  ['\u00B5', '\u017F', '\u0345', '\u03C2', '\u03D0', '\u03D1', '\u03D5', '\u03D6', '\u03F0',
   '\u03F1', '\u03F5', '\u1C80', '\u1C81', '\u1C82', '\u1C83', '\u1C84', '\u1C85', '\u1C86',
   '\u1C87', '\u1C88', '\u1E9B', '\u1FBE', '\u1FD3', '\u1FE3', '\uFB05']

/-- The character, if it is one of the variants. -/
def variant? (c : Char) : Option Char := if c ∈ variants then some c else none

/-- A text with each capital sigma as the small one that it becomes. `before` are the characters in
front of the text, the nearest first. -/
def settleSigmas (before : List Char) : List Char → List Char
  | [] => []
  | c :: rest =>
    (if c = 'Σ' then if meetsCased before && !meetsCased rest then 'ς' else 'σ' else c)
      :: settleSigmas (c :: before) rest

/-- The variants at the places of a text, where a capital sigma at the end of a word counts as the
final one. -/
def variantsIn (l : List Char) : List (Option Char) := (settleSigmas [] l).map variant?

/-- Runs that lead to small letters, against runs that fold. A run that folds leads to the lower case
or comes from it, or it moves variants. -/
structure LoweringTables where
  lower : List CaseRun
  folding : List CaseRun
  ordered : CaseRun.ordered lower = true
  avoids : (lower.all fun r => lower.all r.avoids) = true
  folded : (folding.all fun r => lower.any r.same || lower.any r.reversed.same ||
    r.members.all fun n => (variants.map Char.toNat).contains n) = true
  kept : (variants.all fun c => CaseRun.map lower c.toNat == c.toNat &&
    CaseRun.map lower (CaseRun.map folding c.toNat) != c.toNat) = true

def loweringTables : LoweringTables where
  lower := Table.lower
  folding := Table.folding
  ordered := by decide +kernel
  avoids := by decide +kernel
  folded := by decide +kernel
  kept := by decide +kernel

/-- A code point has the lower case of what it folds to, unless it is a variant, which stays. -/
theorem lower_cases (n : Nat) :
    (n ∈ variants.map Char.toNat ∧ CaseRun.map Table.lower n = n ∧
      CaseRun.map Table.lower (fold n) ≠ n) ∨
    (n ∉ variants.map Char.toNat ∧
      CaseRun.map Table.lower n = CaseRun.map Table.lower (fold n)) := by
  by_cases hVariant : n ∈ variants.map Char.toNat
  · obtain ⟨c, hc, rfl⟩ := List.mem_map.mp hVariant
    have hKept := List.all_eq_true.mp loweringTables.kept c hc
    simp only [Bool.and_eq_true, beq_iff_eq, bne_iff_ne] at hKept
    exact .inl ⟨hVariant, hKept⟩
  · refine .inr ⟨hVariant, ?_⟩
    have hStay {r : CaseRun} {m k : Nat} (hr : r ∈ Table.lower) (hImage : r.image? k = some m) :
        CaseRun.map Table.lower k = m ∧ CaseRun.map Table.lower m = m :=
      CaseRun.map_stays loweringTables.ordered loweringTables.avoids hr hImage
    rcases CaseRun.map_cases Table.folding n with hSame | ⟨r, hr, hImage⟩
    · rw [fold, hSame]
    · have hFolded := List.all_eq_true.mp loweringTables.folded r hr
      simp only [Bool.or_eq_true] at hFolded
      rcases hFolded with (hLower | hBack) | hMoved
      · obtain ⟨s, hs, hRun⟩ := List.any_eq_true.mp hLower
        obtain rfl := CaseRun.eq_of_same hRun
        obtain ⟨hFirst, hSecond⟩ := hStay hs hImage
        exact hFirst.trans hSecond.symm
      · obtain ⟨s, hs, hRun⟩ := List.any_eq_true.mp hBack
        obtain rfl := CaseRun.eq_of_same hRun
        obtain ⟨hFirst, hSecond⟩ := hStay hs (CaseRun.image?_reversed hImage)
        exact hSecond.trans hFirst.symm
      · have hMember := List.all_eq_true.mp hMoved n (CaseRun.mem_members_of_image? hImage)
        exact absurd (List.contains_iff_mem.mp hMember) hVariant

/-- The variants may be told by their numbers, which is how the tables have them. -/
theorem toNat_mem_variants {c : Char} : c.toNat ∈ variants.map Char.toNat ↔ c ∈ variants := by
  simp [Char.toNat_inj]

/-- Of two characters that fold alike, neither is the dotted capital, or both are. -/
theorem eq_or_ne_dotted {c d : Char} (hSame : sameFold c d = true) :
    c = d ∨ (c ≠ 'İ' ∧ d ≠ 'İ') := by
  by_cases hd : d = 'İ'
  · subst hd
    exact .inl (sameFold_dotted hSame)
  · refine .inr ⟨?_, hd⟩
    rintro rfl
    exact hd (sameFold_dotted ((sameFold_comm d 'İ').trans hSame))

/-- Characters that fold alike have the same lower case if they are the same variant, or no variants.
-/
theorem lowerChar_eq_iff {c d : Char} (hSame : sameFold c d = true) :
    lowerChar c = lowerChar d ↔ variant? c = variant? d := by
  rcases eq_or_ne_dotted hSame with rfl | ⟨hc, hd⟩
  · simp
  · have hFold : fold c.toNat = fold d.toNat := sameFold_iff.mp hSame
    have hValid (e : Char) : (CaseRun.map Table.lower e.toNat).isValidChar :=
      isValidChar_lower e.valid
    have hLower : lowerChar c = lowerChar d ↔
        CaseRun.map Table.lower c.toNat = CaseRun.map Table.lower d.toNat := by
      rw [lowerChar, lowerChar, if_neg hc, if_neg hd, List.singleton_inj, ← Char.toNat_inj,
        toNat_ofNat (hValid c), toNat_ofNat (hValid d)]
    rw [hLower, variant?, variant?]
    rcases lower_cases c.toNat with ⟨hc, hKept, hApart⟩ | ⟨hc, hSettled⟩ <;>
      rcases lower_cases d.toNat with ⟨hd, hKept', hApart'⟩ | ⟨hd, hSettled'⟩ <;>
      rw [toNat_mem_variants] at hc hd
    · rw [hKept, hKept', if_pos hc, if_pos hd, Char.toNat_inj, Option.some_inj]
    · rw [hKept, hSettled', ← hFold, if_pos hc, if_neg hd]
      simp [Ne.symm hApart]
    · rw [hKept', hSettled, hFold, if_neg hc, if_pos hd]
      simp [hApart']
    · rw [hSettled, hSettled', hFold, if_neg hc, if_neg hd]
      simp

/-- Letters that are equal when folded have lower cases of one length. There is only one letter
whose lower case has two characters. -/
theorem length_lowerChar_congr {c d : Char} (hSame : sameFold c d = true) :
    (lowerChar c).length = (lowerChar d).length := by
  rcases eq_or_ne_dotted hSame with rfl | ⟨hc, hd⟩
  · rfl
  · obtain ⟨_, hLower, -⟩ := exists_lowerChar hc
    obtain ⟨_, hLower', -⟩ := exists_lowerChar hd
    rw [hLower, hLower']
    rfl

/-- To lower a word is to settle its final sigmas first, and then to lower each letter by itself. -/
theorem lowerAfter_eq (before l : List Char) :
    lowerAfter before l = (settleSigmas before l).flatMap lowerChar := by
  have hFinal : lowerChar 'ς' = ['ς'] ∧ lowerChar 'σ' = ['σ'] := by decide
  induction l generalizing before with
  | nil => rfl
  | cons c rest ih =>
      rw [lowerAfter, settleSigmas, List.flatMap_cons, ih]
      by_cases hSigma : c = 'Σ'
      · rw [if_pos hSigma, if_pos hSigma]
        split
        · rw [hFinal.1]
        · rw [hFinal.2]
      · rw [if_neg hSigma, if_neg hSigma]

/-- The two small sigmas fold alike, so a word is not changed by it as far as folding can tell. -/
theorem foldEq_settleSigmas (before l : List Char) : FoldEq (settleSigmas before l) l := by
  induction l generalizing before with
  | nil => exact .nil
  | cons c rest ih =>
      refine .cons ?_ (ih (c :: before))
      by_cases hSigma : c = 'Σ'
      · subst hSigma
        rw [if_pos rfl]
        split
        · decide
        · decide
      · rw [if_neg hSigma]
        exact sameFold_refl c

/-- Words that fold alike have one lower case if and only if they have the same exceptions at the
same places. -/
theorem flatMap_lowerChar_eq_iff {l l' : List Char} (hEq : FoldEq l l') :
    l.flatMap lowerChar = l'.flatMap lowerChar ↔ l.map variant? = l'.map variant? := by
  induction hEq with
  | nil => simp
  | cons hSame _ ih =>
      rw [List.flatMap_cons, List.flatMap_cons, List.map_cons, List.map_cons, List.cons.injEq, ← ih,
        ← lowerChar_eq_iff hSame]
      constructor
      · exact fun hLower => List.append_inj hLower (length_lowerChar_congr hSame)
      · rintro ⟨hHead, hTail⟩
        rw [hHead, hTail]

/-- Texts that are equal up to case have the same lower case exactly if they have the same variants at
the same places. -/
theorem toLower_eq_iff {l l' : List Char} (hEq : FoldEq l l') :
    toLower (String.ofList l) = toLower (String.ofList l') ↔ variantsIn l = variantsIn l' := by
  have hSettled : FoldEq (settleSigmas [] l) (settleSigmas [] l') :=
    ((foldEq_settleSigmas [] l).trans hEq).trans (foldEq_settleSigmas [] l').symm
  rw [toLower, toLower, String.toList_ofList, String.toList_ofList, String.ofList_inj, lowerAfter_eq,
    lowerAfter_eq, flatMap_lowerChar_eq_iff hSettled]
  rfl

end Expurgate.Unicode
