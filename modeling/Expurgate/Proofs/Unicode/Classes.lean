import Expurgate.Proofs.Unicode.Folding
import Expurgate.Proofs.Unicode.Ranges
import Expurgate.Unicode.Casing

/-! How case folding goes together with lower case and with the classes of characters. What the
tables have to satisfy for this is checked run by run. -/
namespace Expurgate.Unicode

namespace CaseRun

variable {r s : CaseRun} {runs : List CaseRun} {n m : Nat}

/-- A run of cases maps the members of its stride, each moved by the same distance. -/
theorem image?_eq_some : r.image? n = some m ↔
    (r.first ≤ n ∧ n ≤ r.last ∧ (n - r.first) % r.stride = 0) ∧ m = r.target + (n - r.first) := by
  rw [image?]
  split
  · rename_i hIn
    simp [hIn, eq_comm]
  · rename_i hOut
    simp [hOut]

theorem mem_members_of_image? (hImage : r.image? n = some m) : n ∈ r.members := by
  obtain ⟨⟨hFirst, hLast, hStep⟩, -⟩ := image?_eq_some.mp hImage
  have hSteps := Nat.div_add_mod (n - r.first) r.stride
  rw [hStep, Nat.add_zero] at hSteps
  refine List.mem_map.mpr ⟨(n - r.first) / r.stride, ?_, ?_⟩
  · rw [List.mem_range]
    exact Nat.lt_succ_of_le (Nat.div_le_div_right (by omega))
  · rw [Nat.mul_comm, hSteps]
    omega

/-- A test of one pass for runs that ascend without an overlap. -/
def ordered : List CaseRun → Bool
  | [] => true
  | [r] => Nat.ble r.first r.last
  | r :: s :: rest => Nat.ble r.first r.last && Nat.blt r.last s.first && ordered (s :: rest)

/-- Ordered runs do not overlap, so a number is looked up in one of them at most. -/
theorem lt_first_of_ordered (hOrdered : ordered (r :: runs) = true) :
    ∀ s ∈ runs, r.last < s.first := by
  induction runs generalizing r with
  | nil => exact nofun
  | cons s rest ih =>
      simp only [ordered, Bool.and_eq_true, Nat.blt_eq] at hOrdered
      have hSelf : s.first ≤ s.last := by
        cases rest with
        | nil => simpa [ordered] using hOrdered.2
        | cons t rest =>
            simp only [ordered, Bool.and_eq_true, Nat.ble_eq] at hOrdered
            exact hOrdered.2.1.1
      intro t ht
      rcases List.mem_cons.mp ht with rfl | ht
      · exact hOrdered.1.2
      · have := ih hOrdered.2 t ht
        omega

theorem ordered_tail (hOrdered : ordered (r :: runs) = true) : ordered runs = true := by
  cases runs with
  | nil => rfl
  | cons s rest =>
      simp only [ordered, Bool.and_eq_true] at hOrdered
      exact hOrdered.2

/-- In ordered runs it does not matter which other runs there are. -/
theorem map_of_image? (hOrdered : ordered runs = true) (hr : r ∈ runs)
    (hImage : r.image? n = some m) : map runs n = m := by
  induction runs with
  | nil => simp at hr
  | cons s rest ih =>
      have hIn := (image?_eq_some.mp hImage).1
      rw [map]
      rcases List.mem_cons.mp hr with rfl | hr
      · rw [if_neg (by omega), hImage]
      · have hLater := lt_first_of_ordered hOrdered r hr
        have hNone : s.image? n = none := by
          rw [image?, if_neg (by omega)]
        have hFirst : ¬n < s.first := by
          have : s.first ≤ s.last := by
            cases rest with
            | nil => simp at hr
            | cons t rest =>
                simp only [ordered, Bool.and_eq_true, Nat.ble_eq] at hOrdered
                exact hOrdered.1.1
          omega
        rw [if_neg hFirst, hNone]
        exact ih (ordered_tail hOrdered) hr

/-- The code points that `r` leads to are not among those that `s` moves. -/
def avoids (r s : CaseRun) : Bool :=
  Nat.blt (r.target + (r.last - r.first)) s.first || Nat.blt s.last r.target ||
    (Nat.beq s.stride 2 && (Nat.beq r.stride 2 || Nat.beq r.first r.last) &&
      Nat.beq ((r.target + s.first) % 2) 1)

/-- Where two runs avoid each other, what one of them maps the other maps no further. -/
theorem image?_of_avoids (hAvoids : r.avoids s = true) (hImage : r.image? n = some m) :
    s.image? m = none := by
  obtain ⟨hIn, rfl⟩ := image?_eq_some.mp hImage
  simp only [avoids, Bool.or_eq_true, Bool.and_eq_true, Nat.blt_eq, Nat.beq_eq] at hAvoids
  rw [image?, if_neg]
  intro hTarget
  rcases hAvoids with (hBefore | hBehind) | ⟨⟨hStride, hEven⟩, hOdd⟩
  · omega
  · omega
  · rw [hStride] at hTarget
    rcases hEven with hEven | hEven
    · rw [hEven] at hIn
      omega
    · omega

/-- Where the image of a run is not moved itself, it is what it goes to. -/
theorem map_stays (hOrdered : ordered runs = true)
    (hAvoids : (runs.all fun r => runs.all r.avoids) = true) (hr : r ∈ runs)
    (hImage : r.image? n = some m) : map runs n = m ∧ map runs m = m := by
  refine ⟨map_of_image? hOrdered hr hImage, ?_⟩
  rcases map_cases runs m with hSame | ⟨s, hs, hMoved⟩
  · exact hSame
  · have hApart := List.all_eq_true.mp (List.all_eq_true.mp hAvoids r hr) s hs
    rw [image?_of_avoids hApart hImage] at hMoved
    cases hMoved

/-- Every image of the run is a code point of a character. -/
def valid (r : CaseRun) : Bool :=
  Nat.blt (r.target + (r.last - r.first)) 0xD800 ||
    (Nat.blt 0xDFFF r.target && Nat.blt (r.target + (r.last - r.first)) 0x110000)

/-- A run that avoids the surrogates maps to characters. -/
theorem isValidChar_of_valid (hValid : r.valid = true) (hImage : r.image? n = some m) :
    m.isValidChar := by
  obtain ⟨hIn, rfl⟩ := image?_eq_some.mp hImage
  simp only [valid, Bool.or_eq_true, Bool.and_eq_true, Nat.blt_eq] at hValid
  rw [Nat.isValidChar]
  omega

/-- The run that leads back. -/
def reversed (r : CaseRun) : CaseRun := ⟨r.target, r.target + (r.last - r.first), 1, r.first⟩

/-- A reversed run maps back. -/
theorem image?_reversed (hImage : r.image? n = some m) : r.reversed.image? m = some n := by
  obtain ⟨⟨hFirst, hLast, -⟩, hTarget⟩ := image?_eq_some.mp hImage
  rw [image?_eq_some, hTarget]
  refine ⟨⟨Nat.le_add_right _ _, ?_, Nat.mod_one _⟩, ?_⟩ <;> simp only [reversed] <;> omega

def same (r s : CaseRun) : Bool :=
  Nat.beq r.first s.first && Nat.beq r.last s.last && Nat.beq r.stride s.stride &&
    Nat.beq r.target s.target

theorem eq_of_same (hSame : r.same s = true) : r = s := by
  simp only [same, Bool.and_eq_true, Nat.beq_eq] at hSame
  cases r
  cases s
  simp_all

end CaseRun

/-- Tables of case that fit together. A character that has a lower case folds to it, or is what its
lower case folds to. -/
structure CasingTables where
  folding : List CaseRun
  lower : List CaseRun
  ordered : CaseRun.ordered folding = true
  avoids : (folding.all fun r => folding.all r.avoids) = true
  valid : lower.all CaseRun.valid = true
  lowered : (lower.all fun r => folding.any r.same || folding.any r.reversed.same) = true

/-- Tables of word characters and white space that fit together, and to a table of case. A run moves
word characters to word characters, as all that lie between its ends do. -/
structure KindTables (folding : List CaseRun) where
  word : Ranges
  space : Ranges
  tidy_word : word.tidy = true
  tidy_space : space.tidy = true
  moved : (folding.all fun r =>
    (word.any fun w => Nat.ble w.1 r.first && Nat.ble r.last w.2) &&
      (word.any fun w => Nat.ble w.1 r.target && Nat.ble (r.target + (r.last - r.first)) w.2) ||
    r.members.all fun n => word.contains n && word.contains (r.target + (n - r.first))) = true
  apart : (space.all fun r => (List.range' r.1 (r.2 + 1 - r.1)).all fun n => !word.contains n) = true

def casingTables : CasingTables where
  folding := Table.folding
  lower := Table.lower
  ordered := by decide +kernel
  avoids := by decide +kernel
  valid := by decide +kernel
  lowered := by decide +kernel

def kindTables : KindTables Table.folding where
  word := Table.word
  space := Table.space
  tidy_word := by decide +kernel
  tidy_space := by decide +kernel
  moved := by decide +kernel
  apart := by decide +kernel

/-- A character that a run moves folds to its image, and the image stays. -/
theorem fold_of_image? {r : CaseRun} {n m : Nat} (hr : r ∈ Table.folding)
    (hImage : r.image? n = some m) : fold n = m ∧ fold m = m :=
  CaseRun.map_stays casingTables.ordered casingTables.avoids hr hImage

/-- A letter and its lower case fold alike. It is checked run by run, and the letters with several
lower cases are not in the table. -/
theorem fold_lower (n : Nat) : fold (CaseRun.map Table.lower n) = fold n := by
  rcases CaseRun.map_cases Table.lower n with hSame | ⟨r, hr, hImage⟩
  · rw [hSame]
  · rcases (Bool.or_eq_true _ _).mp (List.all_eq_true.mp casingTables.lowered r hr) with hFold | hBack
    · obtain ⟨s, hs, hSame⟩ := List.any_eq_true.mp hFold
      obtain rfl := CaseRun.eq_of_same hSame
      obtain ⟨hFirst, hSecond⟩ := fold_of_image? hs hImage
      rw [hFirst, hSecond]
    · obtain ⟨s, hs, hSame⟩ := List.any_eq_true.mp hBack
      obtain rfl := CaseRun.eq_of_same hSame
      obtain ⟨hFirst, hSecond⟩ := fold_of_image? hs (CaseRun.image?_reversed hImage)
      rw [hFirst, hSecond]

/-- The lower case of a character is a character, as no run maps into the surrogates. -/
theorem isValidChar_lower {n : Nat} (hn : n.isValidChar) :
    (CaseRun.map Table.lower n).isValidChar := by
  rcases CaseRun.map_cases Table.lower n with hSame | ⟨r, hr, hImage⟩
  · rwa [hSame]
  · exact CaseRun.isValidChar_of_valid (List.all_eq_true.mp casingTables.valid r hr) hImage

theorem toNat_ofNat {n : Nat} (hn : n.isValidChar) : (Char.ofNat n).toNat = n := by
  rw [Char.ofNat, dif_pos hn]
  rfl

/-- All but one capital letter have a lower case of one character, which folds alike. -/
theorem exists_lowerChar {c : Char} (hDotted : c ≠ 'İ') :
    ∃ d, lowerChar c = [d] ∧ sameFold c d = true := by
  refine ⟨_, if_neg hDotted, ?_⟩
  have hValid : (CaseRun.map Table.lower c.toNat).isValidChar := isValidChar_lower c.valid
  rw [sameFold_iff, toNat_ofNat hValid]
  exact (fold_lower c.toNat).symm

/-- A text is equal to its lower case but for case. -/
theorem foldEq_lowerAfter {l : List Char} (hDotted : 'İ' ∉ l) (before : List Char) :
    FoldEq l (lowerAfter before l) := by
  induction l generalizing before with
  | nil => exact .nil
  | cons c rest ih =>
      simp only [List.mem_cons, not_or] at hDotted
      have hRest := ih hDotted.2 (c :: before)
      rw [lowerAfter]
      by_cases hSigma : c = 'Σ'
      · subst hSigma
        rw [if_pos rfl]
        refine .cons ?_ hRest
        split
        · decide +kernel
        · decide +kernel
      · obtain ⟨d, hLower, hSame⟩ := exists_lowerChar (Ne.symm hDotted.1)
        rw [if_neg hSigma, hLower]
        exact .cons hSame hRest

/-- Texts with the same lower case are equal up to case. -/
theorem foldEq_of_toLower_eq {l l' : List Char} (hDotted : 'İ' ∉ l) (hDotted' : 'İ' ∉ l')
    (hLower : toLower (String.ofList l) = toLower (String.ofList l')) : FoldEq l l' := by
  have hSame : lowerAfter [] l = lowerAfter [] l' := by
    simpa [toLower, String.ofList_inj] using hLower
  refine (foldEq_lowerAfter hDotted []).trans ?_
  rw [hSame]
  exact (foldEq_lowerAfter hDotted' []).symm

theorem ascending_word : Ranges.Ascending Table.word :=
  Ranges.ascending_of_tidy kindTables.tidy_word

theorem ascending_space : Ranges.Ascending Table.space :=
  Ranges.ascending_of_tidy kindTables.tidy_space

/-- A range that lies inside one range of word characters consists of them. This can be checked for
many ranges at once. -/
theorem word_contains_of_any {a b n : Nat}
    (hRange : (Table.word.any fun w => Nat.ble w.1 a && Nat.ble b w.2) = true) (hFrom : a ≤ n)
    (hTo : n ≤ b) : Table.word.contains n = true := by
  obtain ⟨w, hw, hEnds⟩ := List.any_eq_true.mp hRange
  simp only [Bool.and_eq_true, Nat.ble_eq] at hEnds
  exact (Ranges.contains_iff ascending_word n).mpr ⟨w, hw, by omega, by omega⟩

/-- A letter is a word character exactly if what it folds to is one, so the boundaries of words do
not depend on the case. -/
theorem word_contains_fold (n : Nat) : Table.word.contains (fold n) = Table.word.contains n := by
  rcases CaseRun.map_cases Table.folding n with hSame | ⟨r, hr, hImage⟩
  · rw [fold, hSame]
  · have hCheck := List.all_eq_true.mp kindTables.moved r hr
    have hMember := CaseRun.mem_members_of_image? hImage
    obtain ⟨⟨hFirst, hLast, -⟩, hTarget⟩ := CaseRun.image?_eq_some.mp hImage
    rw [fold, hTarget]
    simp only [Bool.or_eq_true, Bool.and_eq_true] at hCheck
    rcases hCheck with ⟨hSource, hImages⟩ | hEach
    · rw [word_contains_of_any hSource hFirst hLast,
        word_contains_of_any hImages (Nat.le_add_right _ _) (by omega)]
    · have hBoth := List.all_eq_true.mp hEach n hMember
      simp only [Bool.and_eq_true] at hBoth
      exact hBoth.2.trans hBoth.1.symm

/-- Characters that are equal up to case belong to words alike. -/
theorem isWord_of_sameFold {c d : Char} (hSame : sameFold c d = true) : isWord c = isWord d := by
  rw [isWord, isWord, ← word_contains_fold c.toNat, ← word_contains_fold d.toNat,
    sameFold_iff.mp hSame]

/-- White space is no part of a word. -/
theorem isWord_of_isSpace {c : Char} (hSpace : isSpace c = true) : isWord c = false := by
  obtain ⟨r, hr, hFrom, hTo⟩ := (Ranges.contains_iff ascending_space c.toNat).mp hSpace
  have hCheck := List.all_eq_true.mp (List.all_eq_true.mp kindTables.apart r hr) c.toNat
    (List.mem_range'_1.mpr (by omega))
  exact (Bool.not_eq_true' _).mp hCheck

/-- No character of a word is white space. -/
theorem isSpace_of_isWord {c : Char} (hWord : isWord c = true) : isSpace c = false := by
  cases hSpace : isSpace c with
  | false => rfl
  | true => rw [isWord_of_isSpace hSpace] at hWord; exact hWord.symm

/-- Word characters of Latin-1 are letters, numbers and the underscore. -/
theorem latin_word {c : Char} (hWord : isWord c = true) (hLatin : c.toNat ≤ 0xFF) :
    isAlphanumeric c = true ∨ c = '_' := by
  have hLatinWord : ((List.range 256).all fun n => !Table.word.contains n ||
      Table.alphabetic.contains n || Table.numeric.contains n || Nat.beq n 0x5F) = true := by
    decide +kernel
  have hCheck := List.all_eq_true.mp hLatinWord c.toNat
    (List.mem_range.mpr (by omega))
  rw [isWord] at hWord
  simp only [hWord, Bool.not_true, Bool.false_or, Bool.or_eq_true, Nat.beq_eq] at hCheck
  rcases hCheck with hLetter | hUnderscore
  · exact .inl (by simpa [isAlphanumeric, isAlphabetic, isNumeric] using hLetter)
  · exact .inr (Char.toNat_inj.mp hUnderscore)

/-- The dotted capital is equal to no other character. -/
theorem sameFold_dotted {c : Char} (hSame : sameFold c 'İ' = true) : c = 'İ' := by
  have hOrbit : orbit 0x130 = [0x130] := by decide +kernel
  have hMem : c.toNat ∈ orbit 0x130 := mem_orbit.mpr (sameFold_iff.mp hSame)
  rw [hOrbit, List.mem_singleton] at hMem
  exact Char.toNat_inj.mp hMem

end Expurgate.Unicode
