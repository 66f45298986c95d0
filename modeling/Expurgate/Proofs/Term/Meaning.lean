import Expurgate.Proofs.Term.Occurrence
import Expurgate.Proofs.Term.Reading
import Expurgate.Proofs.Term.Within

/-! What compiled terms match. A term matches somewhere in a text if and only if a stretch of the
text spells it and stands where the match method allows it to stand. -/
namespace Expurgate

open Unicode

/-- The characters that belong to the same word, or to the same token. -/
def Shape.joins (shape : Shape) (c : Char) : Bool :=
  match shape with
  | .plain => isWord c || c == '-'
  | .bounded => !isBoundary c

/-- Such characters lead on from both ends of a stretch to places that the shape admits. -/
def Shape.Embeds (shape : Shape) (h : Array Char) (i j : Nat) : Prop :=
  ∃ i' j', Regex.Run shape.joins h i' i ∧ Regex.Run shape.joins h j j' ∧ shape.Admits h i' j'

/-- What a match method asks of the surroundings of a stretch that spells the term. A term that
matches inside words asks for nothing, but where it is removed its whole word is. -/
def MatchMethod.Demands (method : MatchMethod) (shape : Shape) (remove : Bool) (h : Array Char)
    (i j : Nat) : Prop :=
  match method with
  | .exact => shape.Admits h i j
  | .within => remove = true → shape.Embeds h i j
  | .whole => shape.Embeds h i j
  | .regex => True

/-- A stretch of a text spells the term and stands where its method allows it. -/
structure TermOptions.Suits (o : TermOptions) (s : Settings) (h : Array Char) (i j : Nat) :
    Prop where
  le : i ≤ j
  le_size : j ≤ h.size
  spells : Spells (o.repeatedIn s) (o.separatorsIn s) o.text.toList (Span.text ⟨i, j⟩ h)
  demands : (o.methodIn s).Demands (o.shapeIn s) (s.filterMethod = .remove) h i j

namespace Regex

variable {h : Array Char} {p q i j : Nat} {m : List (Nat × Nat)} {shape : Shape}
  {repeated separators remove : Bool} {l : List Char} {method : MatchMethod}

section Filled

theorem matches_wordRun_iff :
    wordRun.Matches h p q m ↔ Run Shape.plain.joins h p q ∧ m = [] := by
  have hKind : CharSet.wordOrHyphen.contains = Shape.plain.joins :=
    funext CharSet.contains_wordOrHyphen
  rw [wordRun, matches_star_set_iff, hKind]

/-- What is taken along of the word or the token around a phrase. -/
def rest (shape : Shape) : Regex :=
  match shape with
  | .plain => wordRun
  | .bounded => tokenRun

theorem matches_rest_iff :
    (rest shape).Matches h p q m ↔ Run shape.joins h p q ∧ m = [] := by
  cases shape
  · exact matches_wordRun_iff
  · exact matches_tokenRun_iff

/-- A phrase with the rest of its word or token. -/
def filled (shape : Shape) (phrase : List Regex) : List Regex :=
  rest shape :: (phrase ++ [rest shape])

/-- A filled phrase matches the phrase with any characters on both sides that the shape joins to a
word. -/
theorem matches_filled_iff (hTo : q ≤ h.size) :
    (sequence (filled shape (phrase repeated separators l))).Matches h p q m ↔
      (∃ i j, Run shape.joins h p i ∧ i ≤ j ∧
        Spells repeated separators l (Span.text ⟨i, j⟩ h) ∧ Run shape.joins h j q) ∧ m = [] := by
  rw [filled, matches_sequence_cons]
  constructor
  · rintro ⟨i, m₁, _, hHead, tail, rfl⟩
    obtain ⟨j, m₂, m₃, hPhrase, hTail, rfl⟩ := (matches_sequence_append _ _).mp tail
    obtain ⟨headRun, rfl⟩ := matches_rest_iff.mp hHead
    obtain ⟨tailRun, rfl⟩ := matches_rest_iff.mp hTail
    have hLe := hPhrase.le
    obtain ⟨spells, rfl⟩ := (matches_phrase_iff hLe (Nat.le_trans tailRun.le hTo)).mp hPhrase
    exact ⟨⟨i, j, headRun, hLe, spells, tailRun⟩, rfl⟩
  · rintro ⟨⟨i, j, headRun, hLe, spells, tailRun⟩, rfl⟩
    have hPhrase := (matches_phrase_iff (m := []) hLe (Nat.le_trans tailRun.le hTo)).mpr
      ⟨spells, rfl⟩
    refine ⟨i, [], [], matches_rest_iff.mpr ⟨headRun, rfl⟩, ?_, rfl⟩
    exact (matches_sequence_append _ _).mpr
      ⟨j, [], [], hPhrase, matches_rest_iff.mpr ⟨tailRun, rfl⟩, rfl⟩

theorem bare_of_mem_filled {phrase : List Regex} (hBare : ∀ r ∈ phrase, r.Bare) :
    ∀ r ∈ filled shape phrase, r.Bare := by
  have hRest : (rest shape).Bare := by cases shape <;> trivial
  simpa [filled, or_imp, forall_and, hRest] using hBare

end Filled

section Plain

variable {body : List Regex}

/-- A phrase with the rest of its word, between word edges. -/
def wholeWord (phrase : List Regex) : List Regex :=
  edge :: wordRun :: (phrase ++ [wordRun, edge])

/-- A whole word matches a stretch with word edges at its ends that the filled phrase matches. -/
theorem matches_wholeWord_iff :
    (sequence (wholeWord body)).Matches h p q m ↔
      Shape.plain.Admits h p q ∧ (sequence (filled .plain body)).Matches h p q m := by
  have hEdges : wholeWord body = edge :: (filled .plain body ++ [edge]) := by
    simp [wholeWord, filled, rest]
  rw [hEdges]
  exact matches_edges_iff

theorem exists_of_matches_spaces
    (way : (sequence (optionalSpace :: (body ++ [optionalSpace]))).Matches h p q m) :
    ∃ i j m', p ≤ i ∧ j ≤ q ∧ (sequence body).Matches h i j m' := by
  obtain ⟨i, _, _, hSpace, tail, rfl⟩ := (matches_sequence_cons _ _).mp way
  obtain ⟨j, m', _, hBody, hSpace', rfl⟩ := (matches_sequence_append _ _).mp tail
  exact ⟨i, j, m', hSpace.le, hSpace'.le, hBody⟩

/-- Within a match of a whole word the phrase is spelled out somewhere, and the characters around it
belong to the same word. -/
theorem span_of_wholeWord (hTo : q ≤ h.size)
    (way : (sequence (wholeWord (phrase repeated separators l))).Matches h p q m) :
    ∃ i j, p ≤ i ∧ i ≤ j ∧ j ≤ q ∧ Spells repeated separators l (Span.text ⟨i, j⟩ h) ∧
      Shape.plain.Embeds h i j := by
  obtain ⟨hAdmits, inner⟩ := matches_wholeWord_iff.mp way
  obtain ⟨⟨i, j, headRun, hLe, spells, tailRun⟩, -⟩ := (matches_filled_iff hTo).mp inner
  exact ⟨i, j, headRun.le, hLe, tailRun.le, spells, p, q, headRun, tailRun, hAdmits⟩

/-- A plain match holds a stretch that spells the term where the method allows it. -/
theorem span_of_plain (hTo : q ≤ h.size)
    (way : (sequence (ofPhrase method .plain remove (phrase repeated separators l))).Matches
      h p q m) :
    ∃ i j, p ≤ i ∧ i ≤ j ∧ j ≤ q ∧ Spells repeated separators l (Span.text ⟨i, j⟩ h) ∧
      method.Demands .plain remove h i j := by
  have hPhrase {i j : Nat} {m : List (Nat × Nat)} (hj : j ≤ h.size)
      (body : (sequence (phrase repeated separators l)).Matches h i j m) :
      i ≤ j ∧ Spells repeated separators l (Span.text ⟨i, j⟩ h) :=
    ⟨body.le, ((matches_phrase_iff body.le hj).mp body).1⟩
  cases method with
  | regex =>
      obtain ⟨hLe, spells⟩ := hPhrase hTo way
      exact ⟨p, q, Nat.le_refl p, hLe, Nat.le_refl q, spells, trivial⟩
  | whole => exact span_of_wholeWord hTo way
  | exact =>
      cases remove with
      | false =>
          obtain ⟨hAdmits, inner⟩ := matches_edges_iff.mp way
          obtain ⟨hLe, spells⟩ := hPhrase hTo inner
          exact ⟨p, q, Nat.le_refl p, hLe, Nat.le_refl q, spells, hAdmits⟩
      | true =>
          obtain ⟨i, j, m', hi, hj, between⟩ := exists_of_matches_spaces way
          obtain ⟨hAdmits, inner⟩ := matches_edges_iff.mp between
          obtain ⟨hLe, spells⟩ := hPhrase (Nat.le_trans hj hTo) inner
          exact ⟨i, j, hi, hLe, hj, spells, hAdmits⟩
  | within =>
      cases remove with
      | false =>
          obtain ⟨hLe, spells⟩ := hPhrase hTo way
          exact ⟨p, q, Nat.le_refl p, hLe, Nat.le_refl q, spells, nofun⟩
      | true =>
          obtain ⟨p', q', m', hp, hq, inner⟩ := exists_of_matches_spaces way
          obtain ⟨i, j, hi, hLe, hj, spells, embeds⟩ :=
            span_of_wholeWord (Nat.le_trans hq hTo) inner
          exact ⟨i, j, Nat.le_trans hp hi, hLe, Nat.le_trans hj hq, spells, fun _ => embeds⟩

end Plain

section Bounded

/-- What matches before and behind a content is what a bounded shape demands there. -/
theorem admits_of_matches {m' : List (Nat × Nat)} (hLeading : leading.Matches h p i m)
    (hTrailing : trailing.Matches h j q m') : Shape.bounded.Admits h i j := by
  constructor
  · rcases leading_cases hLeading with ⟨-, hStart⟩ | ⟨run, hLess⟩
    · exact .inl hStart
    · refine .inr ?_
      rw [charBefore, if_neg (by omega)]
      exact run.each (i - 1) (by omega) (by omega)
  · rcases matches_alt_iff.mp hTrailing with hRun | hStop
    · obtain ⟨run, hLess, -⟩ := matches_boundaryRun_iff.mp hRun
      exact .inr (run.head hLess).1
    · obtain ⟨hHolds, -, -⟩ := matches_look_iff.mp hStop
      exact .inl (by simpa [Look.holds] using hHolds)

/-- A match between boundaries is cut into them and a content that the shape admits. -/
theorem parts_of_between {body : List Regex} (hBare : ∀ r ∈ body, r.Bare)
    (hProductive : (sequence (between body)).Productive) {c : Captures}
    (hMem : c ∈ (sequence (between body)).program.findAll h) : ∃ i j,
      c.marks = groupMarks c.start i j c.stop ∧ c.start ≤ i ∧ j ≤ c.stop ∧ c.stop ≤ h.size ∧
        (sequence body).Matches h i j [] ∧ Shape.bounded.Admits h i j := by
  obtain ⟨hSize, way⟩ := prefers_of_mem_findAll hProductive hMem
  obtain ⟨i, j, first, second, third, hMarks⟩ := prefers_grouped bare_leading
    ((bare_sequence _).mpr hBare) bare_trailing way
  exact ⟨i, j, hMarks, first.matches.1.le, third.matches.1.le, way.matches.1.le_size hSize,
    second.matches.1, admits_of_matches first.matches.1 third.matches.1⟩

/-- The content of a bounded match holds such a stretch too, if there are boundaries around it. -/
theorem span_of_bounded (hMethod : method ≠ .regex) (hWithin : method = .within → remove = true)
    {c : Captures} (hMem : c ∈ (sequence
      (ofPhrase method .bounded remove (phrase repeated separators l))).program.findAll h) :
    ∃ i' j', c.marks = groupMarks c.start i' j' c.stop ∧ c.start ≤ i' ∧ j' ≤ c.stop ∧
      c.stop ≤ h.size ∧ ∃ i j, i' ≤ i ∧ i ≤ j ∧ j ≤ j' ∧
        Spells repeated separators l (Span.text ⟨i, j⟩ h) ∧
        method.Demands .bounded remove h i j := by
  have hProductive : (sequence (ofPhrase method .bounded remove
      (phrase repeated separators l))).Productive :=
    productive_ofPhrase (fun _ => productive_of_mem_phrase) method .bounded remove
  have hBare : ∀ r ∈ phrase repeated separators l, r.Bare := fun _ => bare_of_mem_phrase
  -- Whole tokens are matched alike by the method for them and, where they are removed, by `within`.
  have hFilled (hProductive : (sequence (between (filled .bounded
        (phrase repeated separators l)))).Productive)
      (hMem : c ∈ (sequence (between (filled .bounded
        (phrase repeated separators l)))).program.findAll h) :
      ∃ i' j', c.marks = groupMarks c.start i' j' c.stop ∧ c.start ≤ i' ∧ j' ≤ c.stop ∧
        c.stop ≤ h.size ∧ ∃ i j, i' ≤ i ∧ i ≤ j ∧ j ≤ j' ∧
          Spells repeated separators l (Span.text ⟨i, j⟩ h) ∧ Shape.bounded.Embeds h i j := by
    obtain ⟨i', j', hMarks, hStart, hStop, hSize, body, hAdmits⟩ :=
      parts_of_between (bare_of_mem_filled hBare) hProductive hMem
    obtain ⟨⟨i, j, headRun, hLe, spells, tailRun⟩, -⟩ :=
      (matches_filled_iff (Nat.le_trans hStop hSize)).mp body
    exact ⟨i', j', hMarks, hStart, hStop, hSize, i, j, headRun.le, hLe, tailRun.le, spells, i', j',
      headRun, tailRun, hAdmits⟩
  cases method with
  | regex => exact absurd rfl hMethod
  | whole => exact hFilled hProductive hMem
  | exact =>
      obtain ⟨i, j, hMarks, hStart, hStop, hSize, body, hAdmits⟩ :=
        parts_of_between hBare hProductive hMem
      have spells := ((matches_phrase_iff body.le (Nat.le_trans hStop hSize)).mp body).1
      exact ⟨i, j, hMarks, hStart, hStop, hSize, i, j, Nat.le_refl i, body.le, Nat.le_refl j,
        spells, hAdmits⟩
  | within =>
      obtain rfl := hWithin rfl
      obtain ⟨i', j', hMarks, hStart, hStop, hSize, i, j, hi, hLe, hj, spells, embeds⟩ :=
        hFilled hProductive hMem
      exact ⟨i', j', hMarks, hStart, hStop, hSize, i, j, hi, hLe, hj, spells, fun _ => embeds⟩

end Bounded

/-- Where a stretch spells the term and the method allows it, the expression matches. -/
theorem exists_matches_of_demands (hLe : i ≤ j) (hTo : j ≤ h.size)
    (spells : Spells repeated separators l (Span.text ⟨i, j⟩ h))
    (demands : method.Demands shape remove h i j) : ∃ p q m, p ≤ i ∧
      (sequence (ofPhrase method shape remove (phrase repeated separators l))).Matches h p q m := by
  have hPhrase : (sequence (phrase repeated separators l)).Matches h i j [] :=
    (matches_phrase_iff hLe hTo).mpr ⟨spells, rfl⟩
  have hWhole (embeds : shape.Embeds h i j) : ∃ p q m, p ≤ i ∧
      (sequence (ofPhrase .whole shape remove (phrase repeated separators l))).Matches h p q m := by
    obtain ⟨i', j', headRun, tailRun, hAdmits⟩ := embeds
    have inner : (sequence (filled shape (phrase repeated separators l))).Matches h i' j' [] :=
      (matches_filled_iff (tailRun.le_size hTo)).mpr
        ⟨⟨i, j, headRun, hLe, spells, tailRun⟩, rfl⟩
    cases shape with
    | plain => exact ⟨i', j', [], headRun.le, matches_wholeWord_iff.mpr ⟨hAdmits, inner⟩⟩
    | bounded =>
        obtain ⟨q, m, way⟩ := matches_between hAdmits inner
        exact ⟨i' - 1, q, m, Nat.le_trans (Nat.sub_le i' 1) headRun.le, way⟩
  cases method with
  | regex => exact ⟨i, j, [], Nat.le_refl i, hPhrase⟩
  | whole => exact hWhole demands
  | exact =>
      cases shape with
      | plain => exact ⟨i, j, [], Nat.le_refl i, matches_of_plain hLe hTo spells demands⟩
      | bounded =>
          obtain ⟨q, m, way⟩ := matches_between demands hPhrase
          exact ⟨i - 1, q, m, Nat.sub_le i 1, way⟩
  | within =>
      cases remove with
      | true =>
          obtain ⟨p, q, m, hp, way⟩ := hWhole (demands rfl)
          cases shape with
          | plain => exact ⟨p, q, m, hp, matches_spaces way⟩
          | bounded => exact ⟨p, q, m, hp, way⟩
      | false =>
          cases shape with
          | plain => exact ⟨i, j, [], Nat.le_refl i, hPhrase⟩
          | bounded => exact ⟨i, j, _, Nat.le_refl i, .seq (.capture (.empty i))
              (.seq (.capture hPhrase) (.capture (.empty j)))⟩

end Regex

namespace Term

variable {o : TermOptions} {s : Settings} {t : Term} {h : Array Char}

/-- The content of a match holds a stretch that suits the term. -/
structure Covers (t : Term) (o : TermOptions) (s : Settings) (h : Array Char) (c : Captures)
    (m : MatchParts) (i j : Nat) : Prop where
  split : t.split c = some m
  start_le : c.start ≤ m.content.start
  content_le : m.content.start ≤ i
  le_content : j ≤ m.content.stop
  le_stop : m.content.stop ≤ c.stop
  le_size : c.stop ≤ h.size
  suits : o.Suits s h i j

section Covers

variable (ht : Prepared o s t) {c : Captures} (hMem : c ∈ t.occurrences h)
include ht hMem

theorem Prepared.covers_within (hMethod : o.methodIn s = .within)
    (hKeep : s.filterMethod ≠ .remove) : ∃ m, t.Covers o s h c m c.start c.stop := by
  obtain ⟨hLe, hSize, spells, m, hSplit, -, hContent⟩ := ht.within_parts hMethod hKeep hMem
  rw [ht.repeated, ht.separators, ht.text] at spells
  have hStart : m.content.start = c.start := congrArg Span.start hContent
  have hStop : m.content.stop = c.stop := congrArg Span.stop hContent
  refine ⟨m, hSplit, Nat.le_of_eq hStart.symm, Nat.le_of_eq hStart, Nat.le_of_eq hStop.symm,
    Nat.le_of_eq hStop, hSize, hLe, hSize, spells, ?_⟩
  rw [hMethod]
  intro hRemove
  exact absurd (of_decide_eq_true hRemove) hKeep

/-- Every plain match holds a stretch that suits its term. Which one it is depends on the method,
and so it is not named. -/
theorem Prepared.covers_plain (hMethod : o.methodIn s ≠ .regex) (hShape : o.shapeIn s = .plain) :
    ∃ m i j, t.Covers o s h c m i j := by
  rw [occurrences, ht.program_eq hMethod] at hMem
  obtain ⟨hFrom, way⟩ := Regex.prefers_of_mem_findAll (o.productive_expression s) hMem
  have hSize := way.matches.1.le_size hFrom
  have hSpan := way.matches.1
  rw [TermOptions.expression, hShape] at hSpan
  obtain ⟨i, j, hi, hLe, hj, spells, demands⟩ := Regex.span_of_plain hSize hSpan
  rw [← hShape] at demands
  exact ⟨_, i, j, split_plain (ht.shape.trans hShape) c, Nat.le_refl _, hi, hj, Nat.le_refl _,
    hSize, hLe, Nat.le_trans hj hSize, spells, demands⟩

/-- Every bounded match holds one in its content, between the two boundaries. -/
theorem Prepared.covers_bounded (hMethod : o.methodIn s ≠ .regex)
    (hShape : o.shapeIn s = .bounded)
    (hWithin : o.methodIn s = .within → s.filterMethod = .remove) :
    ∃ m i j, t.Covers o s h c m i j := by
  rw [occurrences, ht.program_eq hMethod, TermOptions.expression, hShape] at hMem
  obtain ⟨i', j', hMarks, hStart, hStop, hSize, i, j, hi, hLe, hj, spells, demands⟩ :=
    Regex.span_of_bounded hMethod (fun hMatch => decide_eq_true (hWithin hMatch)) hMem
  rw [← hShape] at demands
  exact ⟨_, i, j, split_bounded (ht.shape.trans hShape) hMarks, hStart, hi, hj, hStop, hSize, hLe,
    Nat.le_trans hj (Nat.le_trans hStop hSize), spells, demands⟩

/-- The content of each match holds a stretch that spells the term where its method allows it. -/
theorem Prepared.exists_covers (hMethod : o.methodIn s ≠ .regex) :
    ∃ m i j, t.Covers o s h c m i j := by
  by_cases hKeep : o.methodIn s = .within ∧ s.filterMethod ≠ .remove
  · obtain ⟨m, covers⟩ := ht.covers_within hMem hKeep.1 hKeep.2
    exact ⟨m, c.start, c.stop, covers⟩
  · cases hShape : o.shapeIn s with
    | plain => exact ht.covers_plain hMem hMethod hShape
    | bounded =>
        apply ht.covers_bounded hMem hMethod hShape
        intro hWithin
        by_contra hNot
        exact hKeep ⟨hWithin, hNot⟩

end Covers

/-- Every such stretch makes the term match somewhere. -/
theorem Prepared.occurrences_ne_nil (ht : Prepared o s t) (hMethod : o.methodIn s ≠ .regex)
    {i j : Nat} (suits : o.Suits s h i j) : t.occurrences h ≠ [] := by
  have hText := ht.toList_ne_nil
  obtain ⟨p, q, m, hp, way⟩ :=
    Regex.exists_matches_of_demands suits.le suits.le_size suits.spells suits.demands
  obtain ⟨c, hMem, -⟩ := Regex.exists_mem_findAll (o.productive_expression s)
    (Regex.consumes_ofPhrase hText _ _ _) way
    (Nat.le_trans hp (Nat.le_trans suits.le suits.le_size))
  rw [occurrences, ht.program_eq hMethod]
  exact List.ne_nil_of_mem hMem

/-- A term occurs in a text if and only if some stretch of the text suits it. Where there are
several, not all of them need to be found. -/
theorem Prepared.occurrences_ne_nil_iff (ht : Prepared o s t) (hMethod : o.methodIn s ≠ .regex) :
    t.occurrences h ≠ [] ↔ ∃ i j, o.Suits s h i j := by
  constructor
  · intro hSome
    obtain ⟨c, hMem⟩ := List.exists_mem_of_ne_nil _ hSome
    obtain ⟨m, i, j, covers⟩ := ht.exists_covers hMem hMethod
    exact ⟨i, j, covers.suits⟩
  · rintro ⟨i, j, suits⟩
    exact ht.occurrences_ne_nil hMethod suits

/-- A term does not match in a text that is shorter than its own. -/
theorem Prepared.occurrences_of_short (ht : Prepared o s t) (hMethod : o.methodIn s ≠ .regex)
    (hShort : h.size < o.text.toList.length) : t.occurrences h = [] := by
  by_contra hSome
  obtain ⟨i, j, suits⟩ := (ht.occurrences_ne_nil_iff hMethod).mp hSome
  have hLong := suits.spells.length_le
  have hTo := suits.le_size
  rw [Span.length_text hTo] at hLong
  omega

/-- A term with a text of its own is refused only if it is long, for the size of its pattern.
Otherwise it is compiled to what the text of its pattern is read as, whatever characters the term
has, and it matches somewhere in a text exactly if a stretch of the text suits it. -/
theorem compile_matches_iff (hText : o.text ≠ "") (hMethod : o.methodIn s ≠ .regex) :
    (150 < o.text.length ∧ compile o s = .error (.termCompilation o.text .tooLarge)) ∨
      ∃ t r, compile o s = .ok t ∧ Regex.ofText t.source = .ok r ∧ t.program = r.program ∧
        ∀ h, t.occurrences h ≠ [] ↔ ∃ i j, o.Suits s h i j := by
  have hRegex := TermOptions.regexIn_eq hMethod
  by_cases hCost : (o.expression s).cost ≤ Regex.maxCost
  · rw [if_pos hCost] at hRegex
    have hCompile : ∃ t, compile o s = .ok t ∧ t.source = o.sourceIn s := by
      simp [compile, hText, hMethod, hRegex]
    obtain ⟨t, hCompile, hSource⟩ := hCompile
    have ht := prepared_of_compile hCompile
    refine .inr ⟨t, o.expression s, hCompile, ?_, ht.program_eq hMethod, fun h =>
      ht.occurrences_ne_nil_iff hMethod⟩
    rw [hSource, TermOptions.ofText_sourceIn, hRegex]
  · left
    rw [if_neg hCost] at hRegex
    refine ⟨?_, by simp [compile, hText, hMethod, hRegex]⟩
    by_contra hShort
    exact hCost (TermOptions.cost_expression_le s (Nat.not_lt.mp hShort))

/-- The marks of a term stand for themselves, and its letters for capitals too. -/
theorem compile_matches_iff_marks : TermOptions.methodIn (.ofText "c++") .default ≠ .regex ∧
    ∃ t, compile (.ofText "c++") .default = .ok t ∧ t.occurrences "C++?".toList.toArray ≠ [] := by
  refine ⟨by decide, ?_⟩
  rcases compile_matches_iff (o := .ofText "c++") (s := .default) (by decide) (by decide) with
    ⟨hLong, -⟩ | ⟨t, r, hCompile, -, -, hMatches⟩
  · exact absurd hLong (by decide)
  · have hSame : FoldEq ['c', '+', '+'] ['C', '+', '+'] :=
      .cons (by decide) (.cons (by decide) (.cons (by decide) .nil))
    have hSuits : TermOptions.Suits (.ofText "c++") .default "C++?".toList.toArray 0 3 :=
      ⟨by decide, by decide, spells_iff_foldEq.mpr hSame, .inl rfl, .inr ⟨'?', rfl, rfl⟩⟩
    exact ⟨t, hCompile, (hMatches _).mpr ⟨0, 3, hSuits⟩⟩

end Term

end Expurgate
