import Expurgate.Unicode.Ranges
import Mathlib.Data.List.TakeWhile
import Mathlib.Tactic.Common

/-! Which code points a list of ranges holds. Membership stops early and relies on the order of the
ranges; the set operations establish that order and keep the code points. -/
namespace Expurgate.Unicode.Ranges

/-- A code point lies in some range of the list, in whatever order the ranges stand. -/
def Covers (l : List (Nat × Nat)) (n : Nat) : Prop := ∃ r ∈ l, r.1 ≤ n ∧ n ≤ r.2

/-- Ranges in ascending order of their first code points. -/
def Ascending (l : List (Nat × Nat)) : Prop := l.Pairwise (·.1 ≤ ·.1)

/-- No range is empty. -/
def Inhabited (l : List (Nat × Nat)) : Prop := ∀ r ∈ l, r.1 ≤ r.2

/-- Ranges that ascend without an overlap. -/
def Apart (l : List (Nat × Nat)) : Prop := l.Pairwise (·.2 < ·.1)

/-- A test of one pass for ranges that are apart and not empty. -/
def tidy : Ranges → Bool
  | [] => true
  | [r] => r.1 ≤ r.2
  | r :: s :: rest => r.1 ≤ r.2 && r.2 < s.1 && tidy (s :: rest)

/-- Tidy ranges hold a number each. -/
theorem inhabited_of_tidy {a : Ranges} (hTidy : a.tidy = true) : Inhabited a := by
  induction a using tidy.induct with
  | case1 => simp [Inhabited]
  | case2 r => simpa [Inhabited, tidy] using hTidy
  | case3 r s rest ih =>
      simp only [tidy, Bool.and_eq_true, decide_eq_true_eq] at hTidy
      exact List.forall_mem_cons.mpr ⟨hTidy.1.1, ih hTidy.2⟩

/-- Tidy ranges leave a gap between each other, so no two of them could be joined. -/
theorem apart_of_tidy {a : Ranges} (hTidy : a.tidy = true) : Apart a := by
  induction a using tidy.induct with
  | case1 => exact .nil
  | case2 r => exact List.pairwise_singleton _ _
  | case3 r s rest ih =>
      simp only [tidy, Bool.and_eq_true, decide_eq_true_eq] at hTidy
      have hRest := ih hTidy.2
      refine List.pairwise_cons.mpr ⟨?_, hRest⟩
      have hSelf := inhabited_of_tidy hTidy.2 s (by simp)
      intro t ht
      rcases List.mem_cons.mp ht with rfl | ht
      · exact hTidy.1.2
      · have := (List.pairwise_cons.mp hRest).1 t ht
        omega

/-- A test of one pass for ranges that each lie in a range of another list, where both ascend. -/
def within (a b : Ranges) : Bool :=
  (b.foldl (fun left r => left.dropWhile fun s => Nat.ble r.1 s.1 && Nat.ble s.2 r.2) a).isEmpty

theorem covers_cons (r : Nat × Nat) (l : List (Nat × Nat)) (n : Nat) :
    Covers (r :: l) n ↔ (r.1 ≤ n ∧ n ≤ r.2) ∨ Covers l n := by
  simp [Covers]

theorem covers_append (a b : List (Nat × Nat)) (n : Nat) :
    Covers (a ++ b) n ↔ Covers a n ∨ Covers b n := by
  simp [Covers, or_and_right, exists_or]

theorem Apart.ascending {l : List (Nat × Nat)} (hApart : Apart l) (hFull : Inhabited l) :
    Ascending l := by
  induction l with
  | nil => exact .nil
  | cons r l ih =>
      obtain ⟨hFirst, hRest⟩ := List.pairwise_cons.mp hApart
      refine List.pairwise_cons.mpr ⟨?_, ih hRest fun s hs => hFull s (by simp [hs])⟩
      intro s hs
      have := hFirst s hs
      have := hFull r (by simp)
      omega

theorem ascending_of_tidy {a : Ranges} (hTidy : a.tidy = true) : Ascending a :=
  (apart_of_tidy hTidy).ascending (inhabited_of_tidy hTidy)

/-- A search by halves finds what ascending ranges cover. It is the one place where the order of a
table is used. -/
theorem contains_iff {a : Ranges} (hAscending : Ascending a) (n : Nat) :
    a.contains n = true ↔ Covers a n := by
  induction a with
  | nil => simp [contains, Covers]
  | cons r rest ih =>
      obtain ⟨hFirst, hRest⟩ := List.pairwise_cons.mp hAscending
      rw [contains, covers_cons]
      by_cases hBefore : n < r.1
      · have hNone : ¬Covers rest n := by
          rintro ⟨s, hs, hFrom, -⟩
          have := hFirst s hs
          omega
        have hOut : ¬r.1 ≤ n := by omega
        simp [hBefore, hNone, hOut]
      · by_cases hInside : n ≤ r.2
        · simp [hBefore, hInside, Nat.le_of_not_lt hBefore]
        · simp [hBefore, hInside, ih hRest]

/-- Ranges that lie within others are covered by them, whether they are in order or not. -/
theorem covers_of_within {a b : Ranges} (hWithin : a.within b = true) {n : Nat}
    (hn : Covers a n) : Covers b n := by
  induction b generalizing a with
  | nil =>
      obtain rfl : a = [] := by simpa [within] using hWithin
      exact absurd hn (by simp [Covers])
  | cons r rest ih =>
      rw [covers_cons]
      obtain ⟨s, hs, hFrom, hTo⟩ := hn
      rw [← List.takeWhile_append_dropWhile (p := fun s => Nat.ble r.1 s.1 && Nat.ble s.2 r.2)
        (l := a), List.mem_append] at hs
      rcases hs with hInside | hLeft
      · have hEnds := List.mem_takeWhile_imp hInside
        simp only [Bool.and_eq_true, Nat.ble_eq] at hEnds
        exact .inl (by omega)
      · exact .inr (ih hWithin ⟨s, hLeft, hFrom, hTo⟩)

/-- For ranges in order the same holds of the search. -/
theorem contains_of_within {a b : Ranges} (hWithin : a.within b = true) (ha : Ascending a)
    (hb : Ascending b) {n : Nat} (hn : a.contains n = true) : b.contains n = true :=
  (contains_iff hb n).mpr (covers_of_within hWithin ((contains_iff ha n).mp hn))

/-- To join neighbouring ranges changes nothing that they cover. -/
theorem covers_join {l : List (Nat × Nat)} (hAscending : Ascending l) (n : Nat) :
    Covers (join l) n ↔ Covers l n := by
  induction l using join.induct with
  | case1 => simp [join]
  | case2 => simp [join]
  | case3 a b c d rest hTouch ih =>
      obtain ⟨hFirst, hRest⟩ := List.pairwise_cons.mp hAscending
      have hLe : a ≤ c := hFirst (c, d) (by simp)
      have hJoined : Ascending ((a, max b d) :: rest) :=
        List.pairwise_cons.mpr ⟨fun s hs => hFirst s (by simp [hs]), (List.pairwise_cons.mp hRest).2⟩
      rw [join, if_pos hTouch, ih hJoined, covers_cons, covers_cons, covers_cons, ← or_assoc]
      refine or_congr_left ?_
      dsimp only
      omega
  | case4 a b c d rest hGap ih =>
      rw [join, if_neg hGap, covers_cons, covers_cons, ih (List.pairwise_cons.mp hAscending).2]

/-- A joined range starts where one of the ranges did. -/
theorem exists_first_of_mem_join {l : List (Nat × Nat)} {r : Nat × Nat} (hMem : r ∈ join l) :
    ∃ s ∈ l, s.1 = r.1 := by
  induction l using join.induct with
  | case1 => simp [join] at hMem
  | case2 s => exact ⟨s, by simp, by simp_all [join]⟩
  | case3 a b c d rest hTouch ih =>
      rw [join, if_pos hTouch] at hMem
      obtain ⟨s, hs, hFirst⟩ := ih hMem
      rcases List.mem_cons.mp hs with rfl | hs
      · exact ⟨(a, b), by simp, hFirst⟩
      · exact ⟨s, by simp [hs], hFirst⟩
  | case4 a b c d rest hGap ih =>
      rw [join, if_neg hGap] at hMem
      rcases List.mem_cons.mp hMem with rfl | hMem
      · exact ⟨(a, b), by simp, rfl⟩
      · obtain ⟨s, hs, hFirst⟩ := ih hMem
        exact ⟨s, List.mem_cons_of_mem _ hs, hFirst⟩

theorem inhabited_join {l : List (Nat × Nat)} (hFull : Inhabited l) : Inhabited (join l) := by
  induction l using join.induct with
  | case1 => simpa [join] using hFull
  | case2 => simpa [join] using hFull
  | case3 a b c d rest hTouch ih =>
      rw [join, if_pos hTouch]
      apply ih
      intro r hr
      have hHead := hFull (a, b) (by simp)
      rcases List.mem_cons.mp hr with rfl | hr
      · exact Nat.le_trans hHead (Nat.le_max_left b d)
      · exact hFull r (by simp [hr])
  | case4 a b c d rest hGap ih =>
      rw [join, if_neg hGap]
      intro r hr
      rcases List.mem_cons.mp hr with rfl | hr
      · exact hFull (a, b) (by simp)
      · exact ih (fun s hs => hFull s (List.mem_cons_of_mem _ hs)) r hr

/-- Joined ranges leave gaps, if they were in order of their starts before. -/
theorem apart_join {l : List (Nat × Nat)} (hAscending : Ascending l) : Apart (join l) := by
  induction l using join.induct with
  | case1 => simp [join, Apart]
  | case2 => simp [join, Apart]
  | case3 a b c d rest hTouch ih =>
      obtain ⟨hFirst, hRest⟩ := List.pairwise_cons.mp hAscending
      rw [join, if_pos hTouch]
      exact ih (List.pairwise_cons.mpr
        ⟨fun s hs => hFirst s (by simp [hs]), (List.pairwise_cons.mp hRest).2⟩)
  | case4 a b c d rest hGap ih =>
      obtain ⟨-, hRest⟩ := List.pairwise_cons.mp hAscending
      rw [join, if_neg hGap]
      refine List.pairwise_cons.mpr ⟨?_, ih hRest⟩
      intro r hr
      obtain ⟨s, hs, hFirst⟩ := exists_first_of_mem_join hr
      have hLater : c ≤ s.1 := by
        rcases List.mem_cons.mp hs with rfl | hs
        · exact Nat.le_refl _
        · exact (List.pairwise_cons.mp hRest).1 s hs
      dsimp only
      omega

/-- Joining makes no more ranges. -/
theorem length_join_le (l : List (Nat × Nat)) : (join l).length ≤ l.length := by
  induction l using join.induct with
  | case1 | case2 => simp [join]
  | case3 a b c d rest hTouch ih =>
      rw [join, if_pos hTouch]
      simp only [List.length_cons] at ih ⊢
      omega
  | case4 a b c d rest hGap ih =>
      rw [join, if_neg hGap]
      simp only [List.length_cons] at ih ⊢
      omega

/-- Between any two ranges there is one gap at most, and one may be in front and one behind. -/
theorem length_complementFrom_le (next : Nat) (a : Ranges) :
    (complementFrom next a).length ≤ a.length + 1 := by
  induction a generalizing next with
  | nil =>
      rw [complementFrom]
      split <;> simp
  | cons r rest ih =>
      have := ih (r.2 + 1)
      rw [complementFrom]
      split <;> simp only [List.length_cons] <;> omega

section OfList

variable (l : List (Nat × Nat))

/-- The ranges are in order of their starts once those that hold nothing are gone and the rest is
sorted. -/
private theorem ascending_sorted :
    Ascending ((l.filter fun r => r.1 ≤ r.2).mergeSort fun a b => a.1 ≤ b.1) := by
  have hSorted := @List.pairwise_mergeSort _ (fun a b : Nat × Nat => decide (a.1 ≤ b.1))
    (fun a b c hab hbc => by
      simp only [decide_eq_true_eq] at hab hbc ⊢
      exact Nat.le_trans hab hbc)
    (fun a b => by
      simp only [Bool.or_eq_true, decide_eq_true_eq]
      exact Nat.le_total a.1 b.1)
    (l.filter fun r => r.1 ≤ r.2)
  exact hSorted.imp (by simp)

theorem apart_ofList : Apart (ofList l) := apart_join (ascending_sorted l)

theorem inhabited_ofList : Inhabited (ofList l) := by
  apply inhabited_join
  intro r hr
  simpa using (List.mem_filter.mp (List.mem_mergeSort.mp hr)).2

theorem ascending_ofList : Ascending (ofList l) :=
  (apart_ofList l).ascending (inhabited_ofList l)

/-- Any list of pairs can be made a table that covers the same numbers. -/
theorem contains_ofList (n : Nat) : (ofList l).contains n = true ↔ Covers l n := by
  rw [contains_iff (ascending_ofList l), ofList, covers_join (ascending_sorted l)]
  constructor
  · rintro ⟨r, hr, hn⟩
    exact ⟨r, (List.mem_filter.mp (List.mem_mergeSort.mp hr)).1, hn⟩
  · rintro ⟨r, hr, hFrom, hTo⟩
    exact ⟨r, List.mem_mergeSort.mpr (List.mem_filter.mpr ⟨hr, by simp; omega⟩), hFrom, hTo⟩

theorem length_ofList_le : (ofList l).length ≤ l.length := by
  refine Nat.le_trans (length_join_le _) ?_
  rw [List.length_mergeSort]
  exact List.length_filter_le _ _

end OfList

/-- A union covers what either of the two does. -/
theorem contains_union {a b : Ranges} (ha : Ascending a) (hb : Ascending b) (n : Nat) :
    (a.union b).contains n = (a.contains n || b.contains n) := by
  rw [Bool.eq_iff_iff, Bool.or_eq_true, contains_iff ha, contains_iff hb, ← covers_append]
  exact contains_ofList (a ++ b) n

/-- The gaps between ranges, from a code point on, hold what the ranges do not. -/
theorem contains_complementFrom {a : Ranges} (hApart : Apart a) (hFull : Inhabited a)
    {next n : Nat} (hNext : ∀ r ∈ a, next ≤ r.1) (hLast : n ≤ lastCodePoint) :
    (complementFrom next a).contains n = true ↔ next ≤ n ∧ ¬Covers a n := by
  induction a generalizing next with
  | nil =>
      have hNone : ¬Covers [] n := by simp [Covers]
      by_cases hn : n < next
      · have : ¬next ≤ n := by omega
        rw [complementFrom]
        split <;> simp [contains, hn, this]
      · rw [complementFrom, if_pos (by omega)]
        simp [contains, hLast, hNone]
  | cons r rest ih =>
      obtain ⟨hFirst, hRest⟩ := List.pairwise_cons.mp hApart
      have hSelf := hFull r (by simp)
      have hr := hNext r (by simp)
      have hTail : (complementFrom (r.2 + 1) rest).contains n = true ↔ r.2 < n ∧ ¬Covers rest n :=
        ih hRest (fun s hs => hFull s (by simp [hs])) hFirst
      have hNone : n ≤ r.2 → ¬Covers rest n := by
        rintro hn ⟨s, hs, hFrom, -⟩
        have := hFirst s hs
        omega
      rw [covers_cons, complementFrom]
      by_cases hGap : next < r.1 ∧ n < r.1
      · have hNone := hNone (by omega)
        have hIn : n ≤ r.1 - 1 := by omega
        have hOut : ¬r.1 ≤ n := by omega
        by_cases hn : n < next
        · have : ¬next ≤ n := by omega
          simp [hGap.1, contains, hn, this]
        · simp [hGap.1, contains, hn, hIn, hNone, hOut]
          omega
      · have hSkip : Ranges.contains (if next < r.1 then
            (next, r.1 - 1) :: complementFrom (r.2 + 1) rest
            else complementFrom (r.2 + 1) rest) n = true ↔
              (complementFrom (r.2 + 1) rest).contains n = true := by
          split
          · have hFrom : ¬n < next := by omega
            have hTo : ¬n ≤ r.1 - 1 := by omega
            simp [contains, hFrom, hTo]
          · rfl
        rw [hSkip, hTail]
        constructor
        · rintro ⟨hn, hOut⟩
          refine ⟨by omega, ?_⟩
          rintro (⟨-, hIn⟩ | hIn)
          · omega
          · exact hOut hIn
        · rintro ⟨hn, hOut⟩
          refine ⟨?_, fun hIn => hOut (.inr hIn)⟩
          by_contra hIn
          exact hOut (.inl ⟨by omega, by omega⟩)

/-- The complement of normal ranges holds the code points that they do not. -/
theorem contains_complement {a : Ranges} (hApart : Apart a) (hFull : Inhabited a) {n : Nat}
    (hLast : n ≤ lastCodePoint) : a.complement.contains n = !a.contains n := by
  rw [Bool.eq_iff_iff, Bool.not_eq_true', ← Bool.not_eq_true,
    contains_iff (hApart.ascending hFull), complement,
    contains_complementFrom hApart hFull (fun _ _ => Nat.zero_le _) hLast]
  simp

end Expurgate.Unicode.Ranges
