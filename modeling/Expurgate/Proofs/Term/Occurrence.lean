import Expurgate.Proofs.Engine.Resolve
import Expurgate.Proofs.Term.Boundary

/-! Which occurrences of an exact term are found. A plain term finds them all. A match of a bounded
term takes the boundary behind it along, and an occurrence that had only this boundary in front is
missed. -/
namespace Expurgate

open Unicode

/-- What a shape demands at the ends of a stretch: word edges, or boundaries outside of it. -/
def Shape.Admits (shape : Shape) (h : Array Char) (i j : Nat) : Prop :=
  match shape with
  | .plain => Look.wordEdge.holds isWord h i = true ∧ Look.wordEdge.holds isWord h j = true
  | .bounded => (i = 0 ∨ ∃ c, charBefore h i = some c ∧ isBoundary c = true) ∧
      (j = h.size ∨ ∃ c, h[j]? = some c ∧ isBoundary c = true)

/-- A stretch spells the term and meets the demands of its shape. -/
structure Term.Occurs (t : Term) (h : Array Char) (i j : Nat) : Prop where
  le : i ≤ j
  le_size : j ≤ h.size
  spells : Spells t.repeated t.separators t.text.toList (Span.text ⟨i, j⟩ h)
  admits : t.shape.Admits h i j

/-- A match of the term has its record among those of the term's turn. -/
structure Term.Reports (t : Term) (ctx : PassContext) (h : Array Char) (cache : TokenCache)
    (m : MatchParts) : Prop where
  found : ∃ c ∈ t.occurrences h, t.split c = some m
  recorded : ∃ record ∈ (t.pass ctx h cache).1.matched,
    record.start = byteOffset h m.raw.start ∧ record.stop = byteOffset h m.raw.stop ∧
      record.found.toList = m.content.text h

/-- Each occurrence in each text overlaps the content of a reported match. -/
def Term.FindsAll (t : Term) (ctx : PassContext) : Prop :=
  ∀ h cache i j, t.Occurs h i j →
    ∃ m, t.Reports ctx h cache m ∧ m.content.start < j ∧ i < m.content.stop

section Reported

variable {ctx : PassContext} {t : Term} {h : Array Char}

/-- Where no words are allowed, every match with a content is reported. -/
theorem Term.reports_of_mem (hAllowed : ctx.allowList.isEmpty = true) {c : Captures}
    (hMem : c ∈ t.occurrences h) {m : MatchParts} (hSplit : t.split c = some m)
    (hContent : m.content.text h ≠ []) (cache : TokenCache) : t.Reports ctx h cache m := by
  have hExempt (cache' : TokenCache) : (ctx.allowList.exempts t m h cache').1 = false := by
    rw [AllowList.exempts, if_pos hAllowed]
  obtain ⟨s, hReported⟩ := mem_matched_pass hMem hSplit hContent hExempt
  exact ⟨⟨c, hMem, hSplit⟩, _, hReported, rfl, rfl, String.toList_ofList⟩

end Reported

namespace Regex

variable {h : Array Char} {repeated separators remove : Bool} {l : List Char} {i j : Nat}

section Around

variable {body : List Regex} {p q : Nat} {m : List (Nat × Nat)}

/-- Edges are conditions on the ends of what stands between them. -/
theorem matches_edges_iff :
    (sequence (edge :: (body ++ [edge]))).Matches h p q m ↔
      Shape.plain.Admits h p q ∧ (sequence body).Matches h p q m := by
  rw [matches_sequence_cons]
  constructor
  · rintro ⟨_, m₁, _, hEdge, tail, rfl⟩
    obtain ⟨hStart, rfl, rfl⟩ := matches_look_iff.mp hEdge
    obtain ⟨_, m₂, m₃, hBody, hEdge', rfl⟩ := (matches_sequence_append _ _).mp tail
    obtain ⟨hStop, rfl, rfl⟩ := matches_look_iff.mp hEdge'
    exact ⟨⟨hStart, hStop⟩, by simpa using hBody⟩
  · rintro ⟨⟨hStart, hStop⟩, hBody⟩
    refine ⟨p, [], m, .look hStart, ?_, by simp⟩
    exact (matches_sequence_append _ _).mpr ⟨q, m, [], hBody, .look hStop, by simp⟩

/-- White space at the ends is taken along only if it is there. -/
theorem matches_spaces (way : (sequence body).Matches h p q m) :
    (sequence (optionalSpace :: (body ++ [optionalSpace]))).Matches h p q m := by
  have hNone (k : Nat) : optionalSpace.Matches h k k [] := matches_option_iff.mpr (.inr ⟨rfl, rfl⟩)
  rw [matches_sequence_cons]
  refine ⟨p, [], m, hNone p, ?_, by simp⟩
  exact (matches_sequence_append _ _).mpr ⟨q, m, [], way, hNone q, by simp⟩

/-- Where a bounded shape admits a content, there are boundaries to match: from the character in
front, or from the beginning of the text. -/
theorem matches_between (hAdmits : Shape.bounded.Admits h i j)
    (way : (sequence body).Matches h i j m) :
    ∃ q m', (sequence (between body)).Matches h (i - 1) q m' := by
  obtain ⟨q, hTrailing⟩ := matches_trailing hAdmits.2
  have hLeading : leading.Matches h (i - 1) i [] := by
    rcases hAdmits.1 with rfl | ⟨c, hChar, hBoundary⟩
    · exact matches_leading (.refl 0) (.inr rfl)
    · rw [charBefore] at hChar
      split at hChar
      · cases hChar
      · refine matches_leading (.cons hChar hBoundary ?_) (.inl (by omega))
        rw [Nat.sub_add_cancel (by omega)]
        exact .refl i
  exact ⟨q, _, .seq (.capture hLeading) (.seq (.capture way) (.capture hTrailing))⟩

end Around

/-- A plain exact term matches from the beginning of each occurrence. -/
theorem matches_of_plain (hLe : i ≤ j) (hTo : j ≤ h.size)
    (spells : Spells repeated separators l (Span.text ⟨i, j⟩ h))
    (hAdmits : Shape.plain.Admits h i j) :
    (sequence (ofPhrase .exact .plain remove (phrase repeated separators l))).Matches h i j [] := by
  have hPhrase := (matches_phrase_iff (m := []) hLe hTo).mpr ⟨spells, rfl⟩
  have hEdges := matches_edges_iff.mpr ⟨hAdmits, hPhrase⟩
  cases remove with
  | false => exact hEdges
  | true => exact matches_spaces hEdges

/-- A bounded exact term matches from the character in front of each occurrence, or from the
beginning of the text. -/
theorem matches_of_bounded (hLe : i ≤ j) (hTo : j ≤ h.size)
    (spells : Spells repeated separators l (Span.text ⟨i, j⟩ h))
    (hAdmits : Shape.bounded.Admits h i j) : ∃ q m,
      (grouped leading (sequence (phrase repeated separators l)) trailing).Matches h (i - 1) q m := by
  have hPhrase := (matches_phrase_iff (m := []) hLe hTo).mpr ⟨spells, rfl⟩
  exact matches_between hAdmits hPhrase

/-- An exact term takes a character at least, because its text is not empty. -/
theorem consumes_exact (shape : Shape) (hText : l ≠ []) : (sequence
    (ofPhrase .exact shape remove (phrase repeated separators l))).consumes = true :=
  consumes_ofPhrase hText .exact shape remove

/-- The expression of a bounded exact term. -/
def bounded (repeated separators : Bool) (l : List Char) : Regex :=
  grouped leading (sequence (phrase repeated separators l)) trailing

theorem ofPhrase_exact_bounded (remove : Bool) :
    sequence (ofPhrase .exact .bounded remove (phrase repeated separators l)) =
      bounded repeated separators l :=
  rfl

theorem productive_bounded : (bounded repeated separators l).Productive :=
  productive_ofPhrase (fun _ => productive_of_mem_phrase) .exact .bounded false

theorem consumes_bounded (hText : l ≠ []) : (bounded repeated separators l).consumes = true :=
  @consumes_exact repeated separators false l .bounded hText

/-- A match of a bounded exact term in parts. -/
theorem parts_of_bounded {c : Captures}
    (hMem : c ∈ (bounded repeated separators l).program.findAll h) : ∃ i j,
      c.marks = groupMarks c.start i j c.stop ∧ c.start ≤ i ∧ i ≤ j ∧ j ≤ c.stop ∧
      c.stop ≤ h.size ∧ Spells repeated separators l (Span.text ⟨i, j⟩ h) ∧
      leading.Prefers h ((sequence (phrase repeated separators l)).Goes h
        (trailing.Goes h fun _ => True)) c.start i [] ∧
      trailing.Prefers h (fun _ => True) j c.stop [] := by
  obtain ⟨hSize, way⟩ := prefers_of_mem_findAll productive_bounded hMem
  obtain ⟨i, j, first, second, third, hMarks⟩ := prefers_grouped bare_leading
    ((bare_sequence _).mpr fun _ => bare_of_mem_phrase) bare_trailing way
  have hi := first.matches.1.le
  have hj := second.matches.1.le
  have hStop := third.matches.1.le
  have hTo := way.matches.1.le_size hSize
  exact ⟨i, j, hMarks, hi, hj, hStop, hTo,
    ((matches_phrase_iff hj (by omega)).mp second.matches.1).1, first, third⟩

/-- Of the characters a match takes along, only boundary characters are not in its content. -/
theorem content_of_mem {c : Captures}
    (hMem : c ∈ (bounded repeated separators l).program.findAll h) : ∃ i j,
      c.marks = groupMarks c.start i j c.stop ∧ Spells repeated separators l (Span.text ⟨i, j⟩ h) ∧
      ∀ k d, c.start ≤ k → k < c.stop → h[k]? = some d → isBoundary d = false → i ≤ k ∧ k < j := by
  obtain ⟨i, j, hMarks, -, -, -, -, spells, hLeading, hTrailing⟩ := parts_of_bounded hMem
  refine ⟨i, j, hMarks, spells, fun k d hFrom hTo hChar hNot => ⟨?_, ?_⟩⟩
  · by_contra hBefore
    rcases leading_cases hLeading.matches.1 with ⟨-, rfl⟩ | ⟨run, -⟩
    · exact hBefore (Nat.zero_le k)
    · obtain ⟨d', hChar', hBoundary⟩ := run.each k hFrom (by omega)
      obtain rfl : d = d' := Option.some.inj (hChar.symm.trans hChar')
      rw [hNot] at hBoundary
      cases hBoundary
  · by_contra hBehind
    obtain ⟨d', hChar', hBoundary⟩ :=
      (trailing_run hTrailing.matches.1).each k (Nat.not_lt.mp hBehind) hTo
    obtain rfl : d = d' := Option.some.inj (hChar.symm.trans hChar')
    rw [hNot] at hBoundary
    cases hBoundary

end Regex

/-- A text with an occurrence that a bounded term misses. The boundaries between the two copies are
too many for the term to spell, and all of them go with the first copy. -/
def crowded (l : List Char) : List Char :=
  l ++ ((List.replicate (l.length + 1) [',', '.']).flatten ++ l)

/-- Where a run of commas or of full stops ends. -/
def pointRuns : List Char → Nat
  | [] => 0
  | c :: rest => (if (c = ',' ∨ c = '.') ∧ rest.head? ≠ some c then 1 else 0) + pointRuns rest

theorem pointRuns_le_append (u v : List Char) : pointRuns v ≤ pointRuns (u ++ v) := by
  induction u with
  | nil => exact Nat.le_refl _
  | cons c u ih =>
      rw [List.cons_append, pointRuns]
      omega

/-- A group of one letter adds a run of points at most. It may be a group of points, if the term has
some. -/
theorem pointRuns_group {c : Char} {g : List Char}
    (hSame : ∀ d ∈ g, sameFold c d = true) (v : List Char) :
    pointRuns (g ++ v) ≤ 1 + pointRuns v := by
  induction g with
  | nil => exact Nat.le_add_left _ _
  | cons d g ih =>
      have hRest := ih fun e he => hSame e (by simp [he])
      rw [List.cons_append, pointRuns]
      cases g with
      | nil =>
          rw [List.nil_append]
          split <;> omega
      | cons e g =>
          have hNone : ¬((d = ',' ∨ d = '.') ∧ (e :: g ++ v).head? ≠ some d) := by
            rintro ⟨hPoint, hNe⟩
            have hMark : d ∈ patternMarks := by rcases hPoint with rfl | rfl <;> decide
            have hd : c = d := (sameFold_patternMark hMark).mp
              ((sameFold_comm d c).trans (hSame d (by simp)))
            subst hd
            have he : e = c := (sameFold_patternMark hMark).mp (hSame e (by simp))
            exact hNe (by simp [he])
          rw [if_neg hNone, Nat.zero_add]
          exact hRest

theorem pointRuns_gap {g : List Char} (hGap : ∀ x ∈ g, isSeparator x = true) (v : List Char) :
    pointRuns (g ++ v) = pointRuns v := by
  induction g with
  | nil => rfl
  | cons x g ih =>
      have hSeparator := hGap x (by simp)
      have hNone : ¬((x = ',' ∨ x = '.') ∧ (g ++ v).head? ≠ some x) := by
        rintro ⟨rfl | rfl, -⟩ <;> simp [isSeparator_iff] at hSeparator
      rw [List.cons_append, pointRuns, if_neg hNone, Nat.zero_add,
        ih fun y hy => hGap y (by simp [hy])]

/-- A text that spells a term has no more such runs than the term has characters. -/
theorem pointRuns_spells {repeated separators : Bool} {l w : List Char}
    (spells : Spells repeated separators l w) (v : List Char) :
    pointRuns (w ++ v) ≤ l.length + pointRuns v := by
  induction spells with
  | nil => simp
  | last hGroup =>
      have := pointRuns_group hGroup.same v
      simpa using this
  | @cons c d rest group gap word hGroup hGap _ ih =>
      rw [List.append_assoc, List.append_assoc]
      have hFirst := pointRuns_group hGroup.same (gap ++ (word ++ v))
      rw [pointRuns_gap fun x hx => (hGap x hx).2] at hFirst
      simp only [List.length_cons] at *
      omega

/-- Alternating points make a run each, so more of them than a word has letters cannot be spelled by
it. -/
theorem pointRuns_points (n : Nat) (v : List Char) :
    n ≤ pointRuns ((List.replicate n [',', '.']).flatten ++ v) := by
  induction n with
  | zero => exact Nat.zero_le _
  | succ n ih =>
      simp only [List.replicate_succ, List.flatten_cons, List.cons_append, List.nil_append,
        pointRuns, List.head?_cons]
      simp
      omega

section Crowded

variable (l : List Char)

/-- Where the second copy begins. -/
def secondCopy : Nat := l.length + 2 * (l.length + 1)

private theorem length_points (n : Nat) :
    (List.replicate n [',', '.']).flatten.length = 2 * n := by
  simp [Nat.mul_comm]

theorem size_crowded : (crowded l).toArray.size = secondCopy l + l.length := by
  simp [crowded, secondCopy]
  omega

/-- The second copy is all that follows the points, so a match that begins there ends the text. -/
theorem text_secondCopy :
    Span.text ⟨secondCopy l, (crowded l).toArray.size⟩ (crowded l).toArray = l := by
  have hDrop : (crowded l).drop (secondCopy l) = l := by
    rw [crowded, ← List.append_assoc]
    exact List.drop_left' (by rw [List.length_append, length_points, secondCopy])
  rw [Span.text_eq, size_crowded]
  dsimp only
  rw [hDrop, Nat.add_sub_cancel_left, List.take_length]

theorem text_firstCopy : Span.text ⟨0, l.length⟩ (crowded l).toArray = l := by
  rw [Span.text_eq]
  simp [crowded]

/-- Between the copies there are boundary characters only. -/
theorem run_between : Regex.Run isBoundary (crowded l).toArray l.length (secondCopy l) := by
  have hCopy := size_crowded l
  refine Regex.run_of_text (Nat.le_add_right _ _) (by omega) ?_
  have hText : Span.text ⟨l.length, secondCopy l⟩ (crowded l).toArray =
      (List.replicate (l.length + 1) [',', '.']).flatten := by
    rw [Span.text_eq]
    simp only [crowded, secondCopy, List.drop_left, Nat.add_sub_cancel_left]
    exact List.take_left' (length_points _)
  rw [hText]
  intro c hMem
  obtain ⟨point, hPoint, hc⟩ := List.mem_flatten.mp hMem
  obtain rfl := List.eq_of_mem_replicate hPoint
  rcases List.mem_cons.mp hc with rfl | hc
  · decide
  · obtain rfl := List.mem_singleton.mp hc
    decide

/-- A stretch that spells the term from the beginning of the text ends before the second copy. -/
theorem lt_secondCopy {repeated separators : Bool} {j : Nat}
    (spells : Spells repeated separators l (Span.text ⟨0, j⟩ (crowded l).toArray)) :
    j < secondCopy l := by
  by_contra hFar
  have hText := Span.text_append (h := (crowded l).toArray) (Nat.zero_le (secondCopy l))
    (k := j) (by omega)
  have hPrefix : Span.text ⟨0, secondCopy l⟩ (crowded l).toArray =
      l ++ (List.replicate (l.length + 1) [',', '.']).flatten := by
    rw [Span.text_eq, crowded, ← List.append_assoc]
    exact List.take_left' (by rw [List.length_append, length_points, secondCopy, Nat.sub_zero])
  rw [hPrefix, List.append_assoc] at hText
  have hMost := pointRuns_spells spells []
  rw [← hText, List.append_nil] at hMost
  have hFirst := pointRuns_le_append l ((List.replicate (l.length + 1) [',', '.']).flatten ++
    Span.text ⟨secondCopy l, j⟩ (crowded l).toArray)
  have hMany := pointRuns_points (l.length + 1)
    (Span.text ⟨secondCopy l, j⟩ (crowded l).toArray)
  simp only [pointRuns] at hMost
  omega

/-- The search in the crowded text begins with the first copy, and the match takes all boundaries
behind it along. -/
theorem first_crowded {repeated separators : Bool} (hText : l ≠ []) : ∃ first i j,
    (Regex.bounded repeated separators l).program.findFrom (crowded l).toArray 0 = some first ∧
      first.marks = Regex.groupMarks first.start i j first.stop ∧ j < secondCopy l ∧
      secondCopy l ≤ first.stop ∧
      ∀ k, Regex.Run isBoundary (crowded l).toArray first.stop k → k ≤ first.stop := by
  have hSize := size_crowded l
  have hBetween := run_between l
  have hGap : ∃ c, (crowded l).toArray[l.length]? = some c ∧ isBoundary c = true :=
    hBetween.each l.length (Nat.le_refl _) (by rw [secondCopy]; omega)
  have hPhrase : (Regex.sequence (Regex.phrase repeated separators l)).Matches
      (crowded l).toArray 0 l.length [] := by
    rw [Regex.matches_phrase_iff (Nat.zero_le _) (by omega), text_firstCopy]
    exact ⟨.self repeated separators l, rfl⟩
  obtain ⟨q, hTrailing⟩ := Regex.matches_trailing (.inr hGap)
  have hGoes : (Regex.sequence (Regex.phrase repeated separators l)).Goes (crowded l).toArray
      (Regex.trailing.Goes (crowded l).toArray fun _ => True) 0 :=
    ⟨l.length, [], hPhrase, q, [], hTrailing, trivial⟩
  have way : (Regex.bounded repeated separators l).Matches (crowded l).toArray 0 q _ :=
    .seq (.capture (.left (.look (by simp [Look.holds]))))
      (.seq (.capture hPhrase) (.capture hTrailing))
  obtain ⟨hSome, hNone⟩ := Regex.findFrom_program (h := (crowded l).toArray)
    (@Regex.productive_bounded repeated separators l) (Nat.zero_le _)
  cases hFirst : (Regex.bounded repeated separators l).program.findFrom (crowded l).toArray 0 with
  | none => exact absurd ⟨q, _, way⟩ (hNone hFirst 0 (Nat.le_refl _) (Nat.zero_le _))
  | some first =>
      have hFinds := hSome first hFirst
      have hStart : first.start = 0 := by
        by_contra hLater
        exact hFinds.none_before 0 (Nat.le_refl _) (by omega) ⟨q, _, way⟩
      have hMem : first ∈ (Regex.bounded repeated separators l).program.findAll
          (crowded l).toArray := by
        rw [Program.findAll, Program.matchesFrom, Regex.findNext_program Regex.productive_bounded
          (Regex.consumes_bounded hText) (Nat.zero_le _), hFirst]
        exact List.mem_cons_self
      obtain ⟨i, j, hMarks, -, -, -, hTo, spells, hLeading, hGreedy⟩ := Regex.parts_of_bounded hMem
      obtain ⟨hRun, hMost⟩ := Regex.trailing_greatest hGreedy
      rw [hStart] at hLeading
      obtain rfl := Regex.leading_zero hLeading hGoes
      have hContent : j < secondCopy l := lt_secondCopy l spells
      have hLong := spells.length_le
      rw [Span.length_text (by omega), Nat.sub_zero] at hLong
      exact ⟨first, 0, j, rfl, hMarks, hContent,
        hMost _ (hBetween.mono hLong (by omega) (Nat.le_refl _)),
        fun k hk => hMost k (hRun.trans hk)⟩

/-- Every match in the crowded text keeps its content out of the second copy. -/
theorem content_le_secondCopy {repeated separators : Bool} (hText : l ≠ []) {c : Captures}
    (hMem : c ∈ (Regex.bounded repeated separators l).program.findAll (crowded l).toArray) :
    ∃ i j, c.marks = Regex.groupMarks c.start i j c.stop ∧ j ≤ secondCopy l := by
  obtain ⟨first, i, j, hFirst, hMarks, hContent, hReach, hMost⟩ :=
    @first_crowded l repeated separators hText
  have hAll := hMem
  have hSuccessive := (Regex.bounded repeated separators l).program.successive_findAll
    (h := (crowded l).toArray)
  rw [Program.findAll, Program.matchesFrom, Regex.findNext_program Regex.productive_bounded
    (Regex.consumes_bounded hText) (Nat.zero_le _), hFirst] at hAll hSuccessive
  rcases List.mem_cons.mp hAll with rfl | hLater
  · exact ⟨i, j, hMarks, Nat.le_of_lt hContent⟩
  · -- A later match needs a boundary in front, and the next one is inside the second copy.
    cases hSuccessive with
    | cons _ _ _ tail =>
        have hSize := size_crowded l
        have hBehind := tail.start_le_of_mem hLater
        obtain ⟨i', j', -, hi', hj', hStop', hTo', spells', hLeading', -⟩ :=
          Regex.parts_of_bounded hMem
        have hLong' := spells'.length_le
        rw [Span.length_text (by omega)] at hLong'
        rcases Regex.leading_cases hLeading'.matches.1 with ⟨hZero, -⟩ | ⟨run', hLess⟩
        · have : 0 < secondCopy l := by
            rw [secondCopy]
            omega
          omega
        · have hNext : c.start ≠ first.stop := by
            intro hSame
            rw [hSame] at run' hLess
            have := hMost i' run'
            omega
          omega

end Crowded

namespace Term

variable {o : TermOptions} {s : Settings} {t : Term} {h : Array Char} {i j : Nat}

/-- The context of a term's turn under settings that allow no words. -/
def strict (s : Settings) (selector : Selector) : PassContext := ⟨⟨[], []⟩, ⟨s, selector⟩⟩

theorem text_ne_nil_of_compile (hCompile : Term.compile o s = .ok t) : t.text.toList ≠ [] := by
  have ht := prepared_of_compile hCompile
  rw [ht.text]
  exact ht.toList_ne_nil

section Exact

variable (hCompile : Term.compile o s = .ok t) (hMethod : o.methodIn s = .exact)
include hCompile hMethod

/-- The program of an exact term comes from its phrase and its shape, and from whether matches are
removed. -/
theorem program_exact : t.program = (Regex.sequence (Regex.ofPhrase .exact t.shape
    (s.filterMethod = .remove) (Regex.phrase t.repeated t.separators t.text.toList))).program := by
  have ht := prepared_of_compile hCompile
  rw [ht.program_eq (by simp [hMethod]), TermOptions.expression, hMethod, ht.shape, ht.repeated,
    ht.separators, ht.text]

/-- A plain exact term finds every occurrence. -/
theorem exists_overlap_of_plain (hShape : t.shape = .plain) (hOccurs : t.Occurs h i j) :
    ∃ c ∈ t.occurrences h, c.start ≤ i ∧ i < c.stop := by
  have hText := text_ne_nil_of_compile hCompile
  have hAdmits := hOccurs.admits
  rw [hShape] at hAdmits
  rw [occurrences, program_exact hCompile hMethod, hShape]
  refine Regex.exists_mem_findAll
    (Regex.productive_ofPhrase (fun _ => Regex.productive_of_mem_phrase) _ _ _)
    (Regex.consumes_exact .plain hText)
    (Regex.matches_of_plain hOccurs.le hOccurs.le_size hOccurs.spells hAdmits)
    (Nat.le_trans hOccurs.le hOccurs.le_size)

theorem program_bounded (hShape : t.shape = .bounded) :
    t.program = (Regex.bounded t.repeated t.separators t.text.toList).program := by
  rw [program_exact hCompile hMethod, hShape, Regex.ofPhrase_exact_bounded]

/-- A bounded exact term finds a match at the boundary in front of every occurrence. -/
theorem exists_touch_of_bounded (hShape : t.shape = .bounded) (hOccurs : t.Occurs h i j) :
    ∃ c ∈ t.occurrences h, c.start ≤ i ∧ i ≤ c.stop := by
  have hText := text_ne_nil_of_compile hCompile
  have hAdmits := hOccurs.admits
  rw [hShape] at hAdmits
  obtain ⟨q, m, way⟩ := Regex.matches_of_bounded hOccurs.le hOccurs.le_size hOccurs.spells hAdmits
  have hSize := Nat.le_trans hOccurs.le hOccurs.le_size
  obtain ⟨c, hMem, hFrom, hTo⟩ := Regex.exists_mem_findAll Regex.productive_bounded
    (Regex.consumes_bounded hText) way (by omega)
  rw [occurrences, program_bounded hCompile hMethod hShape]
  exact ⟨c, hMem, by omega, by omega⟩

/-- The content of a match of an exact term is not empty, and holds all of the match but boundary
characters. -/
theorem exists_split_of_mem {c : Captures} (hMem : c ∈ t.occurrences h) :
    ∃ m, t.split c = some m ∧ m.raw = ⟨c.start, c.stop⟩ ∧ m.content.text h ≠ [] ∧
      ∀ k d, c.start ≤ k → k < c.stop → h[k]? = some d →
        t.shape = .plain ∨ isBoundary d = false → m.content.start ≤ k ∧ k < m.content.stop := by
  have hText := text_ne_nil_of_compile hCompile
  cases hShape : t.shape with
  | plain =>
      rw [occurrences, program_exact hCompile hMethod, hShape] at hMem
      obtain ⟨hSize, way⟩ := Regex.prefers_of_mem_findAll
        (Regex.productive_ofPhrase (fun _ => Regex.productive_of_mem_phrase) _ _ _) hMem
      have hLess := way.matches.1.lt_of_consumes (Regex.consumes_exact .plain hText)
      exact ⟨_, split_plain hShape c, rfl, Span.text_ne_nil hLess (way.matches.1.le_size hSize),
        fun _ _ hFrom hTo _ _ => ⟨hFrom, hTo⟩⟩
  | bounded =>
      rw [occurrences, program_bounded hCompile hMethod hShape] at hMem
      obtain ⟨i, j, hMarks, spells, hContent⟩ := Regex.content_of_mem hMem
      refine ⟨_, split_bounded hShape hMarks, rfl, ?_, ?_⟩
      · intro hNil
        have hLong := spells.length_le
        rw [show Span.text ⟨i, j⟩ h = [] from hNil] at hLong
        exact hText (List.length_eq_zero_iff.mp (Nat.le_zero.mp hLong))
      · intro k d hFrom hTo hChar hNot
        rcases hNot with hPlain | hNot
        · cases hPlain
        · exact hContent k d hFrom hTo hChar hNot

/-- A bounded exact term misses the second copy in the crowded text. -/
theorem not_findsAll_of_bounded (hShape : t.shape = .bounded) (selector : Selector) :
    ¬t.FindsAll (strict s selector) := by
  intro hFinds
  have hText := text_ne_nil_of_compile hCompile
  let l := t.text.toList
  have hSize := size_crowded l
  have hBetween := run_between l
  have hCopy : l.length < secondCopy l := by
    rw [secondCopy]
    omega
  have hOccurs : t.Occurs (crowded l).toArray (secondCopy l) (crowded l).toArray.size := by
    refine ⟨by omega, Nat.le_refl _, ?_, ?_⟩
    · rw [text_secondCopy]
      exact .self _ _ _
    · rw [hShape]
      refine ⟨.inr ?_, .inl rfl⟩
      rw [charBefore, if_neg (by omega)]
      exact hBetween.each (secondCopy l - 1) (by omega) (by omega)
  obtain ⟨m, hReports, -, hOverlap⟩ := hFinds _ .empty _ _ hOccurs
  obtain ⟨c, hMem, hSplit⟩ := hReports.found
  rw [occurrences, program_bounded hCompile hMethod hShape] at hMem
  obtain ⟨i, j, hMarks, hContent⟩ := content_le_secondCopy l hText hMem
  rw [split_bounded hShape hMarks] at hSplit
  obtain rfl := Option.some.inj hSplit
  exact absurd hOverlap (Nat.not_lt.mpr hContent)

/-- An exact term finds all its occurrences in all texts if its shape is plain, and only then. In
either shape some match covers the place where an occurrence begins, or ends there. So an occurrence
that does not begin with a boundary is missed only directly behind a match. -/
theorem findsAll_iff_plain (selector : Selector) :
    (t.FindsAll (strict s selector) ↔ t.shape = .plain) ∧
    ∀ h cache i j, t.Occurs h i j →
      ∃ m, t.Reports (strict s selector) h cache m ∧ m.raw.start ≤ i ∧ i ≤ m.raw.stop ∧
        ∀ d, h[i]? = some d → isBoundary d = false →
          (m.content.start < j ∧ i < m.content.stop) ∨ m.raw.stop = i := by
  have hReported {h : Array Char} {c : Captures} (cache : TokenCache)
      (hMem : c ∈ t.occurrences h) : ∃ m, t.Reports (strict s selector) h cache m ∧
        m.raw = ⟨c.start, c.stop⟩ ∧ ∀ k d, c.start ≤ k → k < c.stop → h[k]? = some d →
          t.shape = .plain ∨ isBoundary d = false →
            m.content.start ≤ k ∧ k < m.content.stop := by
    obtain ⟨m, hSplit, hRaw, hContent, hHolds⟩ := exists_split_of_mem hCompile hMethod hMem
    exact ⟨m, reports_of_mem rfl hMem hSplit hContent cache, hRaw, hHolds⟩
  have hLess {h : Array Char} {i j : Nat} (hOccurs : t.Occurs h i j) : i < j := by
    have hLong := hOccurs.spells.length_le
    have hText := List.length_pos_iff.mpr (text_ne_nil_of_compile hCompile)
    rw [Span.length_text hOccurs.le_size] at hLong
    omega
  refine ⟨⟨?_, ?_⟩, ?_⟩
  · intro hFinds
    cases hShape : t.shape with
    | plain => rfl
    | bounded => exact absurd hFinds (not_findsAll_of_bounded hCompile hMethod hShape selector)
  · intro hShape h cache i j hOccurs
    obtain ⟨c, hMem, hFrom, hTo⟩ := exists_overlap_of_plain hCompile hMethod hShape hOccurs
    obtain ⟨m, hReports, -, hHolds⟩ := hReported cache hMem
    have hij := hLess hOccurs
    have hSize := Nat.lt_of_lt_of_le hij hOccurs.le_size
    obtain ⟨hLeft, hRight⟩ := hHolds i _ hFrom hTo (Array.getElem?_eq_getElem hSize) (.inl hShape)
    exact ⟨m, hReports, Nat.lt_of_le_of_lt hLeft hij, hRight⟩
  · intro h cache i j hOccurs
    have hTouch : ∃ c ∈ t.occurrences h, c.start ≤ i ∧ i ≤ c.stop := by
      cases hShape : t.shape with
      | plain =>
          obtain ⟨c, hMem, hFrom, hTo⟩ := exists_overlap_of_plain hCompile hMethod hShape hOccurs
          exact ⟨c, hMem, hFrom, Nat.le_of_lt hTo⟩
      | bounded => exact exists_touch_of_bounded hCompile hMethod hShape hOccurs
    obtain ⟨c, hMem, hFrom, hTo⟩ := hTouch
    obtain ⟨m, hReports, hRaw, hHolds⟩ := hReported cache hMem
    refine ⟨m, hReports, by rw [hRaw]; exact hFrom, by rw [hRaw]; exact hTo, ?_⟩
    intro d hChar hNot
    rcases Nat.eq_or_lt_of_le hTo with hEnd | hInside
    · exact .inr (by rw [hRaw, hEnd])
    · obtain ⟨hLeft, hRight⟩ := hHolds i d hFrom hInside hChar (.inr hNot)
      exact .inl ⟨Nat.lt_of_le_of_lt hLeft (hLess hOccurs), hRight⟩

end Exact

/-- A term of Cyrillic letters misses an occurrence. -/
theorem findsAll_iff_plain_cyrillic : ∃ t, Term.compile (.ofText "бля") .default = .ok t ∧
    TermOptions.methodIn (.ofText "бля") .default = .exact ∧
    ¬t.FindsAll (strict .default (.fixed 0)) := by
  obtain ⟨t, ht⟩ := @exists_compile (.ofText "бля") .default (by decide) (by decide) (by decide)
  refine ⟨t, ht, rfl, fun hFinds => ?_⟩
  have hPlain := (findsAll_iff_plain ht rfl (.fixed 0)).1.mp hFinds
  rw [(prepared_of_compile ht).shape] at hPlain
  revert hPlain
  decide

end Term

end Expurgate
