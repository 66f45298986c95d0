import Expurgate.Proofs.Unicode.Classes
import Expurgate.Regex.CharSet

/-! Membership in the sets that patterns are made of. -/
namespace Expurgate.CharSet

open Unicode

/-- The ranges of the set are in the form that membership and complements rely on. -/
structure Normal (s : CharSet) : Prop where
  apart : Ranges.Apart s.ranges
  inhabited : Ranges.Inhabited s.ranges

variable {s t : CharSet}

/-- Normal sets can be searched by halves. -/
theorem Normal.ascending (hs : s.Normal) : Ranges.Ascending s.ranges :=
  hs.apart.ascending hs.inhabited

theorem normal_of_tidy (hTidy : s.ranges.tidy = true) : s.Normal :=
  ⟨Ranges.apart_of_tidy hTidy, Ranges.inhabited_of_tidy hTidy⟩

/-- Whatever pairs a set is made of, it is made normal. -/
theorem normal_ofList (l : List (Nat × Nat)) : (CharSet.mk (Ranges.ofList l)).Normal :=
  ⟨Ranges.apart_ofList l, Ranges.inhabited_ofList l⟩

theorem normal_letter (c : Char) : (letter c).Normal := normal_ofList _

theorem normal_union (s t : CharSet) : (s.union t).Normal := normal_ofList _

theorem normal_word : word.Normal := normal_of_tidy kindTables.tidy_word

theorem normal_space : space.Normal := normal_of_tidy kindTables.tidy_space

theorem contains_letter (c d : Char) : (letter c).contains d = sameFold c d := by
  rw [sameFold_comm, Bool.eq_iff_iff, sameFold_iff, ← mem_orbit]
  refine (Ranges.contains_ofList _ _).trans ?_
  constructor
  · rintro ⟨r, hr, hFrom, hTo⟩
    obtain ⟨n, hn, rfl⟩ := List.mem_map.mp hr
    rwa [Nat.le_antisymm hTo hFrom]
  · intro hMem
    exact ⟨_, List.mem_map.mpr ⟨_, hMem, rfl⟩, Nat.le_refl _, Nat.le_refl _⟩

/-- A union is told by its members. Both sets must be normal, since a set that is not may miss what
it covers. -/
theorem contains_union (hs : s.Normal) (ht : t.Normal) (c : Char) :
    (s.union t).contains c = (s.contains c || t.contains c) :=
  Ranges.contains_union hs.ascending ht.ascending c.toNat

/-- A complement holds exactly the characters that the set does not. The surrogates between them are
no characters and belong to neither. -/
theorem contains_complement (hs : s.Normal) (c : Char) :
    s.complement.contains c = !s.contains c := by
  refine Ranges.contains_complement hs.apart hs.inhabited ?_
  have hValid : c.toNat < 0xD800 ∨ 0xDFFF < c.toNat ∧ c.toNat < 0x110000 := c.valid
  simp only [Ranges.lastCodePoint]
  omega

/-- The characters of a list, each with its other cases, one set united with the next. -/
theorem contains_foldl_union (l : List CharSet) (hs : s.Normal) (hl : ∀ t ∈ l, t.Normal)
    (c : Char) : (l.foldl union s).contains c = (s.contains c || l.any (·.contains c)) := by
  induction l generalizing s with
  | nil => simp
  | cons t l ih =>
      rw [List.foldl_cons, ih (normal_union s t) fun u hu => hl u (by simp [hu]),
        contains_union hs (hl t (by simp)), List.any_cons, Bool.or_assoc]

theorem normal_foldl_union (l : List CharSet) (hs : s.Normal) : (l.foldl union s).Normal := by
  induction l generalizing s with
  | nil => exact hs
  | cons t l ih => exact ih (normal_union s t)

theorem length_union_le (s t : CharSet) :
    (s.union t).ranges.length ≤ s.ranges.length + t.ranges.length := by
  have := Ranges.length_ofList_le (s.ranges ++ t.ranges)
  rwa [List.length_append] at this

/-- No character has many others that fold alike. -/
theorem length_letter_le (c : Char) : (letter c).ranges.length ≤ 255 := by
  refine Nat.le_trans (Ranges.length_ofList_le _) ?_
  rw [List.length_map]
  refine Nat.le_trans (List.length_filter_le _ _) ?_
  rw [List.length_cons]
  refine Nat.le_trans (Nat.succ_le_succ (List.length_filterMap_le _ _)) ?_
  decide +kernel

/-- A bound for the number of ranges in a class. Each of its items has a bounded number of ranges,
and a union adds none. -/
theorem length_foldl_union_le (l : List CharSet) (hl : ∀ t ∈ l, t.ranges.length ≤ 255) :
    (l.foldl union s).ranges.length ≤ s.ranges.length + 255 * l.length := by
  induction l generalizing s with
  | nil => simp
  | cons t l ih =>
      have := @ih (s.union t) fun u hu => hl u (by simp [hu])
      have := length_union_le s t
      have := hl t (by simp)
      simp only [List.foldl_cons, List.length_cons]
      omega

end Expurgate.CharSet
