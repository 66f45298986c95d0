import Expurgate.Proofs.Engine.Turns
import Expurgate.Proofs.Term.Word

/-! What the matches of a term cover where the term is removed, and what stays in their place: a
plain match goes together with its white space, of a bounded one boundary characters stay. -/
namespace Expurgate

open Unicode

section Trim

variable {l l' : List Char}

/-- White space in front of two texts ends in the first one, unless that has nothing else in it. -/
theorem trimStart_append (l l' : List Char) :
    trimStart (l ++ l') = if l.all isSpace then trimStart l' else trimStart l ++ l' := by
  have hBlank : (l.dropWhile isSpace).isEmpty = true ↔ l.all isSpace = true := by
    rw [List.isEmpty_iff, List.dropWhile_eq_nil_iff, List.all_eq_true]
  rw [trimStart, trimStart, trimStart, List.dropWhile_append]
  exact if_congr hBlank rfl rfl

theorem trimEnd_append (l l' : List Char) :
    trimEnd (l ++ l') = if l'.all isSpace then trimEnd l else l ++ trimEnd l' := by
  have hStart := trimStart_append l'.reverse l.reverse
  simp only [trimStart, List.all_reverse] at hStart
  rw [trimEnd, trimEnd, trimEnd, List.reverse_append, hStart]
  split <;> simp

theorem trimStart_isSuffix (l : List Char) : trimStart l <:+ l := List.dropWhile_suffix _

theorem trimEnd_isPrefix (l : List Char) : trimEnd l <+: l := by
  have := List.reverse_prefix.mpr (List.dropWhile_suffix isSpace (l := l.reverse))
  rwa [List.reverse_reverse] at this

theorem trim_isInfix (l : List Char) : trim l <:+: l :=
  (trimEnd_isPrefix _).isInfix.trans (trimStart_isSuffix l).isInfix

theorem trimStart_ne_nil (hVisible : ¬l.all isSpace = true) : trimStart l ≠ [] := by
  intro hNil
  exact hVisible (List.all_eq_true.mpr (List.dropWhile_eq_nil_iff.mp hNil))

theorem trimEnd_ne_nil (hVisible : ¬l.all isSpace = true) : trimEnd l ≠ [] := by
  have hReverse : ¬l.reverse.all isSpace = true := by rwa [List.all_reverse]
  exact fun hNil => trimStart_ne_nil hReverse (List.reverse_eq_nil_iff.mp hNil)

theorem getLast?_trimStart (hVisible : ¬l.all isSpace = true) :
    (trimStart l).getLast? = l.getLast? := by
  obtain ⟨front, hSplit⟩ := trimStart_isSuffix l
  rw [← hSplit, List.getLast?_append_of_ne_nil _ (trimStart_ne_nil hVisible), hSplit]

theorem head?_trimEnd (hVisible : ¬l.all isSpace = true) : (trimEnd l).head? = l.head? := by
  obtain ⟨behind, hSplit⟩ := trimEnd_isPrefix l
  rw [← hSplit, List.head?_append_of_ne_nil _ (trimEnd_ne_nil hVisible), hSplit]

theorem head?_trimStart (l : List Char) : ∀ c ∈ (trimStart l).head?, isSpace c = false := by
  intro c hc
  have hNot := List.head?_dropWhile_not isSpace l
  rw [show (l.dropWhile isSpace).head? = some c from hc] at hNot
  exact hNot

/-- A trimmed text does not begin with white space. -/
theorem head?_trim (l : List Char) : ∀ c ∈ (trim l).head?, isSpace c = false := by
  intro c hc
  obtain ⟨behind, hSplit⟩ := trimEnd_isPrefix (trimStart l)
  refine head?_trimStart l c ?_
  rw [← hSplit, List.head?_append]
  exact congrArg (Option.or · _) hc

theorem trim_ne_nil (hVisible : ¬l.all isSpace = true) : trim l ≠ [] := by
  refine trimEnd_ne_nil fun hAll => ?_
  cases hText : trimStart l with
  | nil => exact trimStart_ne_nil hVisible hText
  | cons d rest =>
      have hNot := head?_trimStart l d (by rw [hText]; rfl)
      rw [List.all_eq_true.mp hAll d (by rw [hText]; exact List.mem_cons_self)] at hNot
      cases hNot

theorem trimStart_eq_self (hHead : ∀ c ∈ l.head?, isSpace c = false) : trimStart l = l := by
  cases l with
  | nil => rfl
  | cons c rest => exact List.dropWhile_cons_of_neg (Bool.not_eq_true _ ▸ hHead c rfl)

theorem trimEnd_eq_self (hLast : ∀ c ∈ l.getLast?, isSpace c = false) : trimEnd l = l := by
  rw [← List.head?_reverse] at hLast
  have hSame := trimStart_eq_self hLast
  rw [trimStart] at hSame
  rw [trimEnd, hSame, List.reverse_reverse]

theorem trim_blank_append (hBlank : l.all isSpace = true)
    (hHead : ∀ c ∈ l'.head?, isSpace c = false) : trim (l ++ l') = trimEnd l' := by
  rw [trim, trimStart_append, if_pos hBlank, trimStart_eq_self hHead]

/-- Blank text behind a visible character is trimmed away with nothing else. -/
theorem trim_append_blank {c : Char} (hLast : l.getLast? = some c) (hVisible : isSpace c = false)
    (hBlank : l'.all isSpace = true) : trim (l ++ l') = trimStart l := by
  have hSome : ¬l.all isSpace = true := by
    intro hAll
    rw [List.all_eq_true.mp hAll c (List.mem_of_mem_getLast? hLast)] at hVisible
    cases hVisible
  rw [trim, trimStart_append, if_neg hSome, trimEnd_append, if_pos hBlank]
  refine trimEnd_eq_self fun d hd => ?_
  rw [getLast?_trimStart hSome, hLast] at hd
  rwa [← Option.some.inj hd]

end Trim

/-- The borders of a bounded match are made of boundary characters, and only an end of the text
takes the place of one. No boundary character is left behind the match. -/
structure Bordered (h : Array Char) (p i j q : Nat) : Prop where
  leading : Regex.Run isBoundary h p i
  front : p < i ∨ p = 0
  le : i ≤ j
  trailing : Regex.Run isBoundary h j q
  behind : j < q ∨ q = h.size
  le_size : q ≤ h.size
  greatest : ∀ c, h[q]? = some c → isBoundary c = false

/-- What a plain match takes out: words, with white space at an end or without. -/
structure Detached (h : Array Char) (p q : Nat) : Prop where
  front : (∃ c, h[p]? = some c ∧ isSpace c = true) ∨ BeginsWord h p
  behind : (∃ c, charBefore h q = some c ∧ isSpace c = true) ∨ EndsWord h q

variable {h : Array Char} {p q i j : Nat}

/-- Of a plain match one white space character stays if it begins and ends with white space, and
else nothing. -/
theorem removeWord_plain (hLess : p < q) (hTo : q ≤ h.size) :
    (removeWord (.plain ⟨p, q⟩) h = [] ∧
      ((∀ c, h[p]? = some c → isSpace c = false) ∨
        ∀ c, charBefore h q = some c → isSpace c = false)) ∨
    ∃ c, h[p]? = some c ∧ isSpace c = true ∧ removeWord (.plain ⟨p, q⟩) h = [c] ∧
      ∃ d, charBefore h q = some d ∧ isSpace d = true := by
  have hp : h[p]? = some h[p] := Array.getElem?_eq_getElem (by omega)
  have hq : charBefore h q = some h[q - 1] := by
    rw [charBefore, if_neg (by omega)]
    exact Array.getElem?_eq_getElem (by omega)
  rw [removeWord, Span.head?_text hLess, Span.getLast?_text hLess hTo, hp, hq]
  cases hHead : isSpace h[p] <;> cases hLast : isSpace h[q - 1] <;> simp [hHead, hLast]

/-- What stays of a bounded match: white space around it, or its borders without the white space at
their ends. Nothing stays only of a match that one of the borders is missing from. -/
theorem removeWord_bounded (raw leading content trailing : Span) (h : Array Char) :
    let kept := removeWord (.bounded raw leading content trailing) h
    let front := leading.text h
    let behind := trailing.text h
    (kept = front ∧ front ≠ [] ∧ (∀ c ∈ front, isSpace c = true) ∧
      ∀ c ∈ behind, isSpace c = true) ∨
    (kept = trim (front ++ behind) ∧ ∃ c ∈ front ++ behind, isSpace c = false) ∨
    (kept = [] ∧ (front = [] ∨ behind = []) ∧ ∀ c ∈ front ++ behind, isSpace c = true) := by
  intro kept front behind
  have hKept : kept = if isBlank front && isBlank behind then front
      else if front.any (!isSpace ·) || behind.any (!isSpace ·) then trim (front ++ behind)
      else [] := rfl
  have hVisible : (front.any (!isSpace ·) || behind.any (!isSpace ·)) = true ↔
      ∃ c ∈ front ++ behind, isSpace c = false := by
    simp only [← List.any_append, List.any_eq_true, Bool.not_eq_true']
  split at hKept
  · rename_i hBlank
    simp only [isBlank, Bool.and_eq_true, Bool.not_eq_true', List.isEmpty_eq_false_iff,
      List.all_eq_true] at hBlank
    exact .inl ⟨hKept, hBlank.1.1, hBlank.1.2, hBlank.2.2⟩
  · rename_i hNot
    split at hKept
    · rename_i hSome
      exact .inr (.inl ⟨hKept, hVisible.mp hSome⟩)
    · rename_i hNone
      have hAll : ∀ c ∈ front ++ behind, isSpace c = true := by
        intro c hc
        by_contra hSpace
        exact hNone (hVisible.mpr ⟨c, hc, by simpa using hSpace⟩)
      refine .inr (.inr ⟨hKept, ?_, hAll⟩)
      by_contra hBoth
      obtain ⟨hFront, hBehind⟩ := not_or.mp hBoth
      refine hNot ?_
      simp only [isBlank, Bool.and_eq_true, Bool.not_eq_true', List.isEmpty_eq_false_iff,
        List.all_eq_true]
      exact ⟨⟨hFront, fun c hc => hAll c (by simp [hc])⟩, hBehind, fun c hc => hAll c (by simp [hc])⟩

/-- Where the borders are more than white space, they stay without the white space at their ends. -/
theorem removeWord_of_visible {raw leading content trailing : Span} {l : List Char}
    (hBorders : leading.text h ++ trailing.text h = l) {c : Char} (hMem : c ∈ l)
    (hVisible : isSpace c = false) :
    removeWord (.bounded raw leading content trailing) h = trim l := by
  subst hBorders
  rcases removeWord_bounded raw leading content trailing h with
    ⟨-, -, hFront, hBehind⟩ | ⟨hKept, -⟩ | ⟨-, -, hAll⟩
  · rw [(List.mem_append.mp hMem).elim (hFront c) (hBehind c)] at hVisible
    cases hVisible
  · exact hKept
  · rw [hAll c hMem] at hVisible
    cases hVisible

/-- What stays of a bounded match is part of its borders. -/
theorem removeWord_sublist (raw leading content trailing : Span) (h : Array Char) :
    (removeWord (.bounded raw leading content trailing) h).Sublist
      (leading.text h ++ trailing.text h) := by
  rcases removeWord_bounded raw leading content trailing h with
    ⟨hKept, -⟩ | ⟨hKept, -⟩ | ⟨hKept, -⟩
  · rw [hKept]
    exact List.sublist_append_left _ _
  · rw [hKept]
    exact (trim_isInfix _).sublist
  · rw [hKept]
    exact List.nil_sublist _

theorem borders_of_removeWord_eq_nil (raw leading content trailing : Span)
    (hNil : removeWord (.bounded raw leading content trailing) h = []) :
    leading.text h = [] ∨ trailing.text h = [] := by
  rcases removeWord_bounded raw leading content trailing h with
    ⟨hKept, hFront, -⟩ | ⟨hKept, hVisible⟩ | ⟨-, hSome, -⟩
  · exact absurd (hKept.symm.trans hNil) hFront
  · refine absurd (hKept.symm.trans hNil) (trim_ne_nil fun hAll => ?_)
    obtain ⟨c, hc, hSpace⟩ := hVisible
    rw [List.all_eq_true.mp hAll c hc] at hSpace
    cases hSpace
  · exact hSome

namespace Regex

/-- A match between boundaries has the borders that its groups mark. The one behind is as long as it
can be, because the search prefers that. -/
theorem bordered_of_between {body : List Regex} (hBare : ∀ r ∈ body, r.Bare)
    (hProductive : (sequence (between body)).Productive) {c : Captures}
    (hMem : c ∈ (sequence (between body)).program.findAll h) :
    ∃ i j, c.marks = groupMarks c.start i j c.stop ∧ (sequence body).Matches h i j [] ∧
      Bordered h c.start i j c.stop := by
  obtain ⟨hSize, way⟩ := prefers_of_mem_findAll hProductive hMem
  obtain ⟨i, j, first, second, third, hMarks⟩ := prefers_grouped bare_leading
    ((bare_sequence _).mpr hBare) bare_trailing way
  have hTo := way.matches.1.le_size hSize
  obtain ⟨run, hMost⟩ := trailing_greatest third
  refine ⟨i, j, hMarks, second.matches.1, ?_, ?_, second.matches.1.le, run, ?_, hTo,
    fun c hChar => ?_⟩
  · rcases leading_cases first.matches.1 with ⟨hStart, rfl⟩ | ⟨run', -⟩
    · rw [hStart]
      exact .refl 0
    · exact run'
  · rcases leading_cases first.matches.1 with ⟨hStart, -⟩ | ⟨-, hLess⟩
    · exact .inr hStart
    · exact .inl hLess
  · rcases matches_alt_iff.mp third.matches.1 with hRun | hStop
    · exact .inl (matches_boundaryRun_iff.mp hRun).2.1
    · obtain ⟨hHolds, hSame, -⟩ := matches_look_iff.mp hStop
      exact .inr (by rw [hSame]; simpa [Look.holds] using hHolds)
  · rw [← Bool.not_eq_true]
    intro hBoundary
    have := hMost (_ + 1) (run.trans (.cons hChar hBoundary (.refl _)))
    omega

/-- Where a bounded term is removed, or does not match inside of words, its content stands between
boundaries. -/
theorem between_of_bounded {body : List Regex} (hBody : ∀ r ∈ body, r.Bare) {method : MatchMethod}
    {remove : Bool} (hMethod : method ≠ .regex) (hWithin : method = .within → remove = true) :
    ∃ content, (∀ r ∈ content, r.Bare) ∧
      ofPhrase method .bounded remove body = between content := by
  have hToken : ∀ r ∈ filled .bounded body, r.Bare := bare_of_mem_filled hBody
  cases method with
  | regex => exact absurd rfl hMethod
  | exact => exact ⟨body, hBody, rfl⟩
  | whole => exact ⟨filled .bounded body, hToken, rfl⟩
  | within =>
      obtain rfl := hWithin rfl
      exact ⟨filled .bounded body, hToken, rfl⟩

end Regex

/-- A match takes words out, and the white space it finds at their ends. -/
theorem detached_of_word (front : SpaceTo h p i) (hBegins : BeginsWord h i) (hEnds : EndsWord h j)
    (behind : SpaceTo h j q) : Detached h p q := by
  constructor
  · rcases front with rfl | ⟨-, hSpace⟩
    · exact .inr hBegins
    · exact .inl hSpace
  · rcases behind with rfl | ⟨rfl, hSpace⟩
    · exact .inr hEnds
    · exact .inl hSpace

namespace Term

variable {o : TermOptions} {s : Settings} {t : Term} {c : Captures}

/-- A match is not empty. -/
theorem Prepared.bounds_of_mem (ht : Prepared o s t) (hMethod : o.methodIn s ≠ .regex)
    (hMem : c ∈ t.occurrences h) : c.start < c.stop ∧ c.stop ≤ h.size := by
  have hText := ht.toList_ne_nil
  rw [occurrences, ht.program_eq hMethod] at hMem
  obtain ⟨hp, way⟩ := Regex.prefers_of_mem_findAll (o.productive_expression s) hMem
  exact ⟨way.matches.1.lt_of_consumes (Regex.consumes_ofPhrase hText _ _ _),
    way.matches.1.le_size hp⟩

/-- So has every match of a bounded term. -/
theorem Prepared.bordered (ht : Prepared o s t) (hMethod : o.methodIn s ≠ .regex)
    (hWithin : o.methodIn s = .within → s.filterMethod = .remove)
    (hShape : o.shapeIn s = .bounded) (hMem : c ∈ t.occurrences h) : ∃ i j,
      t.split c = some (.bounded ⟨c.start, c.stop⟩ ⟨c.start, i⟩ ⟨i, j⟩ ⟨j, c.stop⟩) ∧
        Bordered h c.start i j c.stop := by
  have hProductive := o.productive_expression s
  rw [occurrences, ht.program_eq hMethod] at hMem
  have hPhrase : ∀ r ∈ Regex.phrase (o.repeatedIn s) (o.separatorsIn s) o.text.toList, r.Bare :=
    fun _ => Regex.bare_of_mem_phrase
  obtain ⟨content, hBare, hContent⟩ := Regex.between_of_bounded hPhrase hMethod
    fun hMatch => decide_eq_true (hWithin hMatch)
  rw [TermOptions.expression, hShape, hContent] at hMem hProductive
  obtain ⟨i, j, hMarks, -, bordered⟩ := Regex.bordered_of_between hBare hProductive hMem
  exact ⟨i, j, split_bounded (ht.shape.trans hShape) hMarks, bordered⟩

section Plain

variable (ht : Prepared o s t) (hRemove : s.filterMethod = .remove)
  (hMethod : o.methodIn s ≠ .regex) (hShape : o.shapeIn s = .plain) (hMem : c ∈ t.occurrences h)
include ht hRemove hMethod hShape hMem

/-- A plain match in an expression that takes white space along or, for whole words, does not. -/
theorem Prepared.spaced_of_plain : ∃ body,
    (Regex.sequence (Regex.spaced (o.methodIn s ≠ .whole) body)).Productive ∧
    c ∈ (Regex.sequence (Regex.spaced (o.methodIn s ≠ .whole) body)).program.findAll h ∧
    (body = Regex.wholeWord (Regex.phrase (o.repeatedIn s) (o.separatorsIn s) o.text.toList) ∨
      (o.methodIn s = .exact ∧ body = Regex.edge ::
        (Regex.phrase (o.repeatedIn s) (o.separatorsIn s) o.text.toList ++ [Regex.edge]))) := by
  have hProductive := o.productive_expression s
  rw [occurrences, ht.program_eq hMethod] at hMem
  rw [TermOptions.expression, hShape, hRemove] at hMem hProductive
  cases hKind : o.methodIn s with
  | regex => exact absurd hKind hMethod
  | exact =>
      rw [hKind] at hMem hProductive
      exact ⟨_, hProductive, hMem, .inr ⟨rfl, rfl⟩⟩
  | within =>
      rw [hKind] at hMem hProductive
      exact ⟨_, hProductive, hMem, .inl rfl⟩
  | whole =>
      rw [hKind] at hMem hProductive
      exact ⟨_, hProductive, hMem, .inl rfl⟩

/-- Unless whole words are matched, no white space is left directly behind a match that does not end
with some. -/
theorem Prepared.space_taken (hNot : o.methodIn s ≠ .whole) :
    (∃ d, charBefore h c.stop = some d ∧ isSpace d = true) ∨
      ∀ d, h[c.stop]? = some d → isSpace d = false := by
  obtain ⟨body, hProductive, hMem, -⟩ := ht.spaced_of_plain hRemove hMethod hShape hMem
  obtain ⟨-, way⟩ := Regex.prefers_of_mem_findAll hProductive hMem
  obtain ⟨i, j, m', -, -, behind, hTaken⟩ := Regex.prefers_spaced way
  rw [if_pos (decide_eq_true hNot)] at hTaken
  rcases behind with hSame | ⟨hNext, hSpace⟩
  · rw [hSame]
    exact .inr (hTaken hSame)
  · rw [hNext]
    exact .inl hSpace

/-- A plain match takes whole words out. -/
theorem Prepared.detached (hEdged : WordEdged o.text.toList) : Detached h c.start c.stop := by
  have hText := ht.toList_ne_nil
  obtain ⟨body, hProductive, hMem, hBody⟩ := ht.spaced_of_plain hRemove hMethod hShape hMem
  rcases hBody with rfl | ⟨-, rfl⟩
  · obtain ⟨i, x, y, j, front, parts, behind, -⟩ := Regex.parts_of_spaced_wholeWord hMem
    exact detached_of_word front (parts.beginsWord hEdged hText hMem front) parts.endsWord behind
  · obtain ⟨hp, way⟩ := Regex.prefers_of_mem_findAll hProductive hMem
    have hTo := way.matches.1.le_size hp
    obtain ⟨i, j, m', front, inner, behind, -⟩ := Regex.prefers_spaced way
    have hj : j ≤ h.size := by
      rcases behind with hSame | ⟨hNext, -⟩ <;> omega
    obtain ⟨⟨hStart, hStop⟩, hPhrase⟩ := Regex.matches_edges_iff.mp inner.matches.1
    obtain ⟨-, hFirst, hLast⟩ :=
      ((Regex.matches_phrase_iff hPhrase.le hj).mp hPhrase).1.places hEdged hText hj
    exact detached_of_word front (beginsWord_of_edge hStart hFirst) (endsWord_of_edge hStop hLast)
      behind

/-- A plain match of a whole word ends with the word. -/
theorem Prepared.endsWord_of_whole (hWhole : o.methodIn s = .whole) : EndsWord h c.stop := by
  obtain ⟨body, -, hMem, hBody⟩ := ht.spaced_of_plain hRemove hMethod hShape hMem
  obtain rfl := hBody.resolve_right fun hExact => by
    rw [hWhole] at hExact
    cases hExact.1
  obtain ⟨i, x, y, j, -, parts, -, hAlong⟩ := Regex.parts_of_spaced_wholeWord hMem
  rw [if_neg (by simp [hWhole])] at hAlong
  rw [← hAlong.2]
  exact parts.endsWord

end Plain

end Term

end Expurgate
