import Expurgate.Proofs.Term.Removed
import Mathlib.Data.List.DropRight

/-! Where the word of an exact term stands at one place of a text only, the term matches once. This is
what the match takes along where the term is removed: of white space one character on either side, of
boundaries all there are. -/
namespace Expurgate

open Unicode

/-- A word stands at one stretch of a text, and at no other up to case. -/
structure Alone (l : List Char) (h : Array Char) (i j : Nat) : Prop where
  le : i ≤ j
  le_size : j ≤ h.size
  here : FoldEq l (Span.text ⟨i, j⟩ h)
  only : ∀ x y, x ≤ y → y ≤ h.size → FoldEq l (Span.text ⟨x, y⟩ h) → x = i

variable {l : List Char} {h : Array Char} {i j k : Nat}

namespace Alone

/-- Where a word stands alone, any stretch that reads like it is that one. The ends agree because
the stretches have one length. -/
theorem eq (alone : Alone l h i j) {x y : Nat} (hLe : x ≤ y) (hTo : y ≤ h.size)
    (hEq : FoldEq l (Span.text ⟨x, y⟩ h)) : x = i ∧ y = j := by
  have hStart := alone.only x y hLe hTo hEq
  have hLength := hEq.length_eq
  have hHere := alone.here.length_eq
  have hSize := alone.le_size
  have hLess := alone.le
  rw [Span.length_text hTo] at hLength
  rw [Span.length_text hSize] at hHere
  omega

theorem lt (alone : Alone l h i j) (hText : l ≠ []) : i < j := by
  have hHere := alone.here.length_eq
  have hLength := List.length_pos_iff.mpr hText
  rw [Span.length_text alone.le_size] at hHere
  omega

end Alone

section Border

variable {kind : Char → Bool} {l l' : List Char}

/-- The front of a text that is of one kind ends where another kind begins. -/
theorem takeWhile_append_eq (hl : ∀ c ∈ l, kind c = true)
    (hl' : ∀ c ∈ l'.head?, kind c = false) :
    (l ++ l').takeWhile kind = l ∧ (l ++ l').dropWhile kind = l' := by
  rw [List.takeWhile_append_of_pos hl, List.dropWhile_append_of_pos hl]
  cases l' with
  | nil => exact ⟨List.append_nil l, rfl⟩
  | cons d rest => simp [hl' d rfl]

/-- So does its end, seen from behind. -/
theorem rtakeWhile_append_eq (hl : ∀ c ∈ l.getLast?, kind c = false)
    (hl' : ∀ c ∈ l', kind c = true) :
    (l ++ l').rtakeWhile kind = l' ∧ (l ++ l').rdropWhile kind = l := by
  rw [← List.head?_reverse] at hl
  obtain ⟨hTake, hDrop⟩ :=
    takeWhile_append_eq (l := l'.reverse) (fun c hc => hl' c (List.mem_reverse.mp hc)) hl
  rw [List.rtakeWhile, List.rdropWhile, List.reverse_append, hTake, hDrop]
  exact ⟨List.reverse_reverse l', List.reverse_reverse l⟩

/-- Nothing is taken from the end of a text whose last character is of another kind. -/
theorem rtakeWhile_of_getLast? (hLast : ∀ c ∈ l.getLast?, kind c = false) :
    l.rtakeWhile kind = [] ∧ l.rdropWhile kind = l := by
  have hSame : (l ++ []).rtakeWhile kind = [] ∧ (l ++ []).rdropWhile kind = l :=
    rtakeWhile_append_eq hLast nofun
  rwa [List.append_nil] at hSame

theorem head?_takeWhile {c : Char} (hHead : c ∈ l.head?) (hKind : kind c = true) :
    (l.takeWhile kind).head? = some c := by
  cases l with
  | nil => cases hHead
  | cons d rest =>
      obtain rfl := Option.some.inj hHead
      rw [List.takeWhile_cons_of_pos hKind]
      rfl

theorem getLast?_rtakeWhile {c : Char} (hLast : c ∈ l.getLast?) (hKind : kind c = true) :
    (l.rtakeWhile kind).getLast? = some c := by
  rw [List.rtakeWhile, List.getLast?_reverse]
  rw [← List.head?_reverse] at hLast
  exact head?_takeWhile hLast hKind

/-- The borders of a match are all the boundaries next to its content. -/
theorem Bordered.texts {p q : Nat} (bordered : Bordered h p i j q)
    (hBefore : ∀ d, charBefore h p = some d → isBoundary d = false) {a b : List Char}
    (ha : Span.text ⟨0, i⟩ h = a) (hb : Span.text ⟨j, h.size⟩ h = b) :
    (Span.text ⟨0, p⟩ h = a.rdropWhile isBoundary ∧ Span.text ⟨p, i⟩ h = a.rtakeWhile isBoundary) ∧
      Span.text ⟨j, q⟩ h = b.takeWhile isBoundary ∧
      Span.text ⟨q, h.size⟩ h = b.dropWhile isBoundary := by
  have hSize := bordered.le_size
  have hi := bordered.leading.le
  have hj := bordered.trailing.le
  have hLess := bordered.le
  rw [← Span.text_append (Nat.zero_le p) hi] at ha
  rw [← Span.text_append hj hSize] at hb
  subst ha hb
  constructor
  · have hLast : ∀ d ∈ (Span.text ⟨0, p⟩ h).getLast?, isBoundary d = false := by
      intro d hd
      rcases Nat.eq_zero_or_pos p with rfl | hPos
      · rw [Span.text_self] at hd
        cases hd
      · rw [Span.getLast?_text hPos (by omega)] at hd
        exact hBefore d hd
    obtain ⟨hTake, hDrop⟩ := rtakeWhile_append_eq hLast bordered.leading.forall_text
    exact ⟨hDrop.symm, hTake.symm⟩
  · have hHead : ∀ d ∈ (Span.text ⟨q, h.size⟩ h).head?, isBoundary d = false := by
      intro d hd
      rcases Nat.eq_or_lt_of_le hSize with rfl | hMore
      · rw [Span.text_self] at hd
        cases hd
      · rw [Span.head?_text hMore] at hd
        exact bordered.greatest d hd
    obtain ⟨hTake, hDrop⟩ := takeWhile_append_eq bordered.trailing.forall_text hHead
    exact ⟨hTake.symm, hDrop.symm⟩

end Border

namespace TermOptions

/-- A term is matched exactly as it is written, and removed. -/
structure RemovedExactly (o : TermOptions) (s : Settings) : Prop where
  method : o.methodIn s = .exact
  repeated : o.repeatedIn s = false
  separators : o.separatorsIn s = false
  remove : s.filterMethod = .remove

/-- The word is matched where it stands. -/
theorem RemovedExactly.matches {o : TermOptions} {s : Settings} (removed : o.RemovedExactly s)
    (alone : Alone o.text.toList h i j) : (Regex.sequence (Regex.phrase (o.repeatedIn s)
      (o.separatorsIn s) o.text.toList)).Matches h i j [] := by
  rw [removed.repeated, removed.separators]
  exact (Regex.matches_phrase_iff alone.le alone.le_size).mpr ⟨spells_iff_foldEq.mpr alone.here, rfl⟩

end TermOptions

namespace Term

variable {o : TermOptions} {s : Settings} {t : Term} {c : Captures}

/-- Where a term can be matched from some place on, it is matched there or earlier. -/
theorem Prepared.exists_mem_occurrences (ht : Prepared o s t) (hMethod : o.methodIn s ≠ .regex)
    {q : Nat} {m : List (Nat × Nat)} (hSize : k ≤ h.size) (way : (o.expression s).Matches h k q m) :
    ∃ c ∈ t.occurrences h, c.start ≤ k := by
  obtain ⟨c, hMem, hFrom, -⟩ := Regex.exists_mem_findAll (o.productive_expression s)
    (Regex.consumes_ofPhrase ht.toList_ne_nil _ _ _) way hSize
  rw [← ht.program_eq hMethod] at hMem
  exact ⟨c, hMem, hFrom⟩

section Exact

variable (ht : Prepared o s t) (removed : o.RemovedExactly s) (alone : Alone o.text.toList h i j)
include ht removed alone

/-- Every match of the term covers the word. This is where it is used that the word stands nowhere
else, since a match has to spell it somewhere. -/
theorem Prepared.around_alone (hMem : c ∈ t.occurrences h) : c.start ≤ i ∧ j ≤ c.stop := by
  obtain ⟨m, x, y, covers⟩ := ht.exists_covers hMem (by rw [removed.method]; decide)
  have spells := covers.suits.spells
  rw [removed.repeated, removed.separators, spells_iff_foldEq] at spells
  obtain ⟨rfl, rfl⟩ := alone.eq covers.suits.le covers.suits.le_size spells
  exact ⟨Nat.le_trans covers.start_le covers.content_le,
    Nat.le_trans covers.le_content covers.le_stop⟩

/-- One match is all there is. -/
theorem Prepared.occurrences_alone (hMem : c ∈ t.occurrences h) : t.occurrences h = [c] := by
  refine t.program.successive_findAll.eq_singleton hMem i fun d hd => ?_
  obtain ⟨hStart, hStop⟩ := ht.around_alone removed alone hd
  exact ⟨hStart, Nat.lt_of_lt_of_le (alone.lt ht.toList_ne_nil) hStop⟩

/-- A bounded match has the word for its content. -/
theorem Prepared.bordered_alone (hShape : o.shapeIn s = .bounded) (hMem : c ∈ t.occurrences h) :
    t.split c = some (.bounded ⟨c.start, c.stop⟩ ⟨c.start, i⟩ ⟨i, j⟩ ⟨j, c.stop⟩) ∧
      Bordered h c.start i j c.stop := by
  have hProductive := o.productive_expression s
  rw [occurrences, ht.program_eq (by rw [removed.method]; decide)] at hMem
  rw [TermOptions.expression, hShape, removed.method] at hMem hProductive
  obtain ⟨x, y, hMarks, content, bordered⟩ :=
    Regex.bordered_of_between (fun _ => Regex.bare_of_mem_phrase) hProductive hMem
  have hTo : y ≤ h.size := Nat.le_trans bordered.trailing.le bordered.le_size
  have spells := ((Regex.matches_phrase_iff bordered.le hTo).mp content).1
  rw [removed.repeated, removed.separators, spells_iff_foldEq] at spells
  obtain ⟨rfl, rfl⟩ := alone.eq bordered.le hTo spells
  exact ⟨split_bounded (ht.shape.trans hShape) hMarks, bordered⟩

/-- A bounded term takes all boundaries on both sides of the word. -/
theorem Prepared.exists_bordered (hShape : o.shapeIn s = .bounded)
    (hFront : i = 0 ∨ ∃ d, charBefore h i = some d ∧ isBoundary d = true)
    (hBehind : j = h.size ∨ ∃ d, h[j]? = some d ∧ isBoundary d = true) :
    ∃ c, t.occurrences h = [c] ∧
      t.split c = some (.bounded ⟨c.start, c.stop⟩ ⟨c.start, i⟩ ⟨i, j⟩ ⟨j, c.stop⟩) ∧
      Bordered h c.start i j c.stop ∧ ∀ d, charBefore h c.start = some d → isBoundary d = false := by
  obtain ⟨k, run, hMost⟩ := Regex.Run.exists_longest isBoundary h i
  obtain ⟨q, hTrailing⟩ := Regex.matches_trailing hBehind
  have hLeading : Regex.leading.Matches h k i [] := by
    refine Regex.matches_leading run ?_
    rcases hFront with hZero | ⟨d, hBefore, hBoundary⟩
    · exact .inr hZero
    · exact .inl (run.longest_lt hMost hBefore hBoundary)
  obtain ⟨m, way⟩ : ∃ m, (o.expression s).Matches h k q m := by
    rw [TermOptions.expression, hShape, removed.method]
    exact ⟨_, .seq (.capture hLeading)
      (.seq (.capture (removed.matches alone)) (.capture hTrailing))⟩
  have hSize : k ≤ h.size := Nat.le_trans run.le (Nat.le_trans alone.le alone.le_size)
  obtain ⟨c, hMem, hFrom⟩ := ht.exists_mem_occurrences (by rw [removed.method]; decide) hSize way
  obtain ⟨hSplit, bordered⟩ := ht.bordered_alone removed alone hShape hMem
  have hStart : c.start = k := Nat.le_antisymm hFrom (hMost _ bordered.leading)
  refine ⟨c, ht.occurrences_alone removed alone hMem, hSplit, bordered, ?_⟩
  rw [hStart]
  exact run.before_longest hMost

/-- A plain match reaches to the word, or to white space next to it, which is taken if it is there. -/
theorem Prepared.spaced_alone (hShape : o.shapeIn s = .plain) (hMem : c ∈ t.occurrences h) :
    SpaceTo h c.start i ∧ SpaceTo h j c.stop ∧
      (c.stop = j → ∀ d, h[j]? = some d → isSpace d = false) := by
  have hProductive := o.productive_expression s
  rw [occurrences, ht.program_eq (by rw [removed.method]; decide)] at hMem
  rw [TermOptions.expression, hShape, removed.method, removed.remove] at hMem hProductive
  obtain ⟨hStart, way⟩ := Regex.prefers_of_mem_findAll hProductive hMem
  have hEnd := way.matches.1.le_size hStart
  have way : (Regex.sequence (Regex.spaced true (Regex.edge :: (Regex.phrase (o.repeatedIn s)
      (o.separatorsIn s) o.text.toList ++ [Regex.edge])))).Prefers h _ c.start c.stop c.marks := way
  obtain ⟨x, y, m, front, inner, behind, hTaken⟩ := Regex.prefers_spaced way
  have hTo : y ≤ h.size := by
    rcases behind with hSame | ⟨hNext, -⟩ <;> omega
  have hPhrase := (Regex.matches_edges_iff.mp inner.matches.1).2
  have spells := ((Regex.matches_phrase_iff hPhrase.le hTo).mp hPhrase).1
  rw [removed.repeated, removed.separators, spells_iff_foldEq] at spells
  obtain ⟨rfl, rfl⟩ := alone.eq hPhrase.le hTo spells
  exact ⟨front, behind, hTaken⟩

/-- A plain term takes a white space character on either side of the word. -/
theorem Prepared.exists_spaced (hShape : o.shapeIn s = .plain) (hEdged : WordEdged o.text.toList)
    (hFront : ∃ d, h[k]? = some d ∧ isSpace d = true) (hNext : i = k + 1)
    (hBehind : ∃ d, h[j]? = some d ∧ isSpace d = true) :
    ∃ c, c.start = k ∧ c.stop = j + 1 ∧ t.occurrences h = [c] := by
  obtain ⟨d, hSign, hSpace⟩ := hFront
  obtain ⟨e, hSign', hSpace'⟩ := hBehind
  have spells : Spells false false o.text.toList (Span.text ⟨i, j⟩ h) :=
    spells_iff_foldEq.mpr alone.here
  obtain ⟨hLess, hFirst, hLast⟩ := spells.places hEdged ht.toList_ne_nil alone.le_size
  have hStart : Look.wordEdge.holds isWord h i = true := by
    refine holds_wordEdge_iff.mpr (.inl ⟨hFirst, fun a ha => ?_⟩)
    rw [hNext, charBefore_succ, hSign] at ha
    obtain rfl := Option.some.inj ha
    exact isWord_of_isSpace hSpace
  have hStop : Look.wordEdge.holds isWord h j = true := by
    refine holds_wordEdge_iff.mpr (.inr ⟨hLast, fun a ha => ?_⟩)
    obtain rfl := Option.some.inj (hSign'.symm.trans ha)
    exact isWord_of_isSpace hSpace'
  obtain ⟨m, way⟩ : ∃ m, (o.expression s).Matches h k (j + 1) m := by
    have inner := Regex.matches_edges_iff.mpr ⟨⟨hStart, hStop⟩, removed.matches alone⟩
    rw [TermOptions.expression, hShape, removed.method, removed.remove]
    exact ⟨[], Regex.matches_spaced_along (.inr ⟨hNext, d, hSign, hSpace⟩) inner
      (.inr ⟨rfl, e, hSign', hSpace'⟩)⟩
  have hSize : k ≤ h.size := by
    have := alone.le_size
    omega
  obtain ⟨c, hMem, hFrom⟩ := ht.exists_mem_occurrences (by rw [removed.method]; decide) hSize way
  obtain ⟨front, behind, hTaken⟩ := ht.spaced_alone removed alone hShape hMem
  refine ⟨c, ?_, ?_, ht.occurrences_alone removed alone hMem⟩
  · rcases front with hSame | ⟨hSame, -⟩ <;> omega
  · rcases behind with hSame | ⟨hSame, -⟩
    · rw [hTaken hSame e hSign'] at hSpace'
      cases hSpace'
    · exact hSame

end Exact

end Term

end Expurgate
