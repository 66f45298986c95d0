import Expurgate.Proofs.Term.Alone

/-! What stays between two texts where the word between them is removed, with a space on either side of
it: one of the two spaces or, of a bounded term, the punctuation next to them. -/
namespace Expurgate

open Unicode

/-- A word stands between two texts, parted from each by a space, and nowhere else up to case. -/
structure WordBetween (front word behind text : List Char) : Prop where
  text_eq : text = front ++ ' ' :: (word ++ ' ' :: behind)
  front_end : ∀ d ∈ front.getLast?, isSpace d = false
  behind_begin : ∀ d ∈ behind.head?, isSpace d = false
  once : ∀ x, FoldEq word ((text.drop x).take word.length) → x = front.length + 1

variable {front word behind text : List Char}

namespace WordBetween

variable (between : WordBetween front word behind text)
include between

/-- The text falls into the front with its space, the word, and the space with what is behind it. -/
theorem parts : Span.text ⟨0, front.length + 1⟩ text.toArray = front ++ [' '] ∧
    Span.text ⟨front.length + 1, front.length + 1 + word.length⟩ text.toArray = word ∧
      Span.text ⟨front.length + 1 + word.length, text.toArray.size⟩ text.toArray = ' ' :: behind := by
  have hText : text.toArray.toList = (front ++ [' ']) ++ (word ++ ' ' :: behind) := by
    rw [List.append_assoc]
    exact between.text_eq
  simpa using Span.text_parts hText

/-- What is left of the text once the word and both spaces are gone. -/
theorem outer_parts : Span.text ⟨0, front.length⟩ text.toArray = front ∧
    Span.text ⟨front.length + 1 + word.length + 1, text.toArray.size⟩ text.toArray = behind := by
  have hText : text.toArray.toList = front ++ ((' ' :: (word ++ [' '])) ++ behind) := by
    simpa using between.text_eq
  obtain ⟨hFront, -, hBehind⟩ := Span.text_parts hText
  refine ⟨hFront, ?_⟩
  rw [← hBehind]
  congr 2
  simp only [List.length_cons, List.length_append, List.length_nil]
  omega

theorem size_eq : text.toArray.size = front.length + 1 + word.length + 1 + behind.length := by
  rw [List.size_toArray, between.text_eq]
  simp only [List.length_cons, List.length_append]
  omega

theorem space_front : text.toArray[front.length]? = some ' ' := by
  rw [List.getElem?_toArray, between.text_eq]
  simp

theorem space_behind : text.toArray[front.length + 1 + word.length]? = some ' ' := by
  have hSize := between.size_eq
  rw [← Span.head?_text (q := text.toArray.size) (by omega), between.parts.2.2]
  rfl

/-- The word stands alone between its two spaces, so a bounded term matches it there. -/
theorem alone : Alone word text.toArray (front.length + 1) (front.length + 1 + word.length) := by
  have hSize := between.size_eq
  refine ⟨by omega, by omega, ?_, fun x y hLe hTo hEq => between.once x ?_⟩
  · rw [between.parts.2.1]
    exact .refl word
  · have hLength := hEq.length_eq
    rw [Span.length_text hTo] at hLength
    rwa [Span.text_eq, ← hLength] at hEq

end WordBetween

/-- No word stands behind the end of a text. -/
theorem WordBetween.once_of_lt {n : Nat} (hWord : word ≠ [])
    (hOnce : ∀ x < text.length, FoldEq word ((text.drop x).take word.length) → x = n) (x : Nat)
    (hEq : FoldEq word ((text.drop x).take word.length)) : x = n := by
  by_cases hx : x < text.length
  · exact hOnce x hx hEq
  · rw [List.drop_of_length_le (Nat.not_lt.mp hx), List.take_nil] at hEq
    exact absurd (List.length_eq_zero_iff.mp hEq.length_eq) hWord

namespace Turn

variable {ctx : PassContext} {o : TermOptions} {t : Term}
  (hAllowed : ctx.allowList.isEmpty = true) (ht : Term.Prepared o ctx.replacer.settings t)
  (removed : o.RemovedExactly ctx.replacer.settings)
  (between : WordBetween front o.text.toList behind text) (cache : TokenCache) (chooser : Selector)
include hAllowed ht removed between

/-- A plain term leaves one of the two spaces. -/
theorem result_between_plain (hShape : o.shapeIn ctx.replacer.settings = .plain)
    (hEdged : WordEdged o.text.toList) :
    ((⟨t, text.toArray, cache, chooser⟩ : Turn).result ctx).text.toList =
      front ++ ' ' :: behind := by
  have hSize := between.size_eq
  obtain ⟨c, hStart, hStop, hOnly⟩ := ht.exists_spaced removed between.alone hShape hEdged
    ⟨' ', between.space_front, by decide⟩ rfl ⟨' ', between.space_behind, by decide⟩
  have hLess : c.start < c.stop := by omega
  have hTo : c.stop ≤ text.toArray.size := by omega
  have hLast : charBefore text.toArray c.stop = some ' ' := by
    rw [hStop, charBefore_succ, between.space_behind]
  have hKept : removeWord (.plain ⟨c.start, c.stop⟩) text.toArray = [' '] := by
    rcases removeWord_plain hLess hTo with ⟨-, hNone | hNone⟩ | ⟨d, hd, -, hKept, -⟩
    · rw [hStart] at hNone
      exact absurd (hNone ' ' between.space_front) (by decide)
    · exact absurd (hNone ' ' hLast) (by decide)
    · rw [hStart, between.space_front] at hd
      rw [hKept, Option.some.inj hd]
  obtain ⟨hFront, hBehind⟩ := between.outer_parts
  rw [result_alone hAllowed hOnly (Term.split_plain (ht.shape.trans hShape) c)
    (Span.text_ne_nil hLess hTo), Replacer.replacement, PassContext.settings_choosing,
    removed.remove]
  dsimp only
  rw [hKept, hStart, hStop, hFront, hBehind, List.append_assoc]
  rfl

/-- A bounded term takes all boundaries around the word. -/
theorem result_between_bounded (hShape : o.shapeIn ctx.replacer.settings = .bounded) :
    ∃ raw leading content trailing : Span,
      leading.text text.toArray = front.rtakeWhile isBoundary ++ [' '] ∧
      trailing.text text.toArray = ' ' :: behind.takeWhile isBoundary ∧
      ((⟨t, text.toArray, cache, chooser⟩ : Turn).result ctx).text.toList =
        front.rdropWhile isBoundary ++
          removeWord (.bounded raw leading content trailing) text.toArray ++
            behind.dropWhile isBoundary := by
  have hBlank : isBoundary ' ' = true := by decide
  have hBefore : charBefore text.toArray (front.length + 1) = some ' ' := by
    exact between.space_front
  obtain ⟨c, hOnly, hSplit, bordered, hFirst⟩ := ht.exists_bordered removed between.alone hShape
    (.inr ⟨' ', hBefore, hBlank⟩) (.inr ⟨' ', between.space_behind, hBlank⟩)
  obtain ⟨hFront, hWord, hBehind⟩ := between.parts
  obtain ⟨⟨hOuter, hLeading⟩, hTrailing, hRest⟩ := bordered.texts hFirst hFront hBehind
  rw [List.rtakeWhile_concat_pos _ _ _ hBlank] at hLeading
  rw [List.rdropWhile_concat_pos _ _ _ hBlank] at hOuter
  rw [List.takeWhile_cons_of_pos hBlank] at hTrailing
  rw [List.dropWhile_cons_of_pos hBlank] at hRest
  refine ⟨⟨c.start, c.stop⟩, ⟨c.start, front.length + 1⟩,
    ⟨front.length + 1, front.length + 1 + o.text.toList.length⟩,
    ⟨front.length + 1 + o.text.toList.length, c.stop⟩, hLeading, hTrailing, ?_⟩
  have hContent : Span.text ⟨front.length + 1, front.length + 1 + o.text.toList.length⟩
      text.toArray ≠ [] := by
    rw [hWord]
    exact ht.toList_ne_nil
  rw [result_alone hAllowed hOnly hSplit hContent, Replacer.replacement,
    PassContext.settings_choosing, removed.remove, hOuter, hRest]

variable (hShape : o.shapeIn ctx.replacer.settings = .bounded)
include hShape

/-- Without a boundary next to the spaces one of them stays. -/
theorem result_between_inner (hFront : ∀ d ∈ front.getLast?, isBoundary d = false)
    (hBehind : ∀ d ∈ behind.head?, isBoundary d = false) :
    ((⟨t, text.toArray, cache, chooser⟩ : Turn).result ctx).text.toList =
      front ++ ' ' :: behind := by
  obtain ⟨raw, leading, content, trailing, hLeading, hTrailing, hResult⟩ :=
    result_between_bounded hAllowed ht removed between cache chooser hShape
  obtain ⟨hTake, hDrop⟩ := rtakeWhile_of_getLast? hFront
  obtain ⟨hDrop', hTake'⟩ := dropWhile_of_head hBehind
  rw [hTake] at hLeading
  rw [hTake'] at hTrailing
  have hKept : removeWord (.bounded raw leading content trailing) text.toArray = [' '] := by
    have hBlank : isBlank [' '] = true := by decide
    rw [removeWord, hLeading, hTrailing, List.nil_append, hBlank]
    rfl
  rw [hResult, hKept, hDrop, hDrop', List.append_assoc]
  rfl

/-- Boundaries in front of the spaces take their place. -/
theorem result_between_front (hFront : ∃ d ∈ front.getLast?, isBoundary d = true)
    (hBehind : ∀ d ∈ behind.head?, isBoundary d = false) :
    ((⟨t, text.toArray, cache, chooser⟩ : Turn).result ctx).text.toList =
      front.rdropWhile isBoundary ++ trimStart (front.rtakeWhile isBoundary) ++ behind := by
  obtain ⟨raw, leading, content, trailing, hLeading, hTrailing, hResult⟩ :=
    result_between_bounded hAllowed ht removed between cache chooser hShape
  obtain ⟨d, hd, hBoundary⟩ := hFront
  obtain ⟨hDrop, hTake⟩ := dropWhile_of_head hBehind
  rw [hTake] at hTrailing
  have hBorders : leading.text text.toArray ++ trailing.text text.toArray =
      front.rtakeWhile isBoundary ++ [' ', ' '] := by
    rw [hLeading, hTrailing, List.append_assoc]
    rfl
  have hLast : (front.rtakeWhile isBoundary).getLast? = some d :=
    getLast?_rtakeWhile hd hBoundary
  have hVisible := between.front_end d hd
  have hMem : d ∈ front.rtakeWhile isBoundary ++ [' ', ' '] :=
    List.mem_append_left _ (List.mem_of_mem_getLast? hLast)
  rw [hResult, hDrop, removeWord_of_visible hBorders hMem hVisible,
    trim_append_blank hLast hVisible (by decide)]

/-- So do boundaries behind them. -/
theorem result_between_behind (hFront : ∀ d ∈ front.getLast?, isBoundary d = false)
    (hBehind : ∃ d ∈ behind.head?, isBoundary d = true) :
    ((⟨t, text.toArray, cache, chooser⟩ : Turn).result ctx).text.toList =
      front ++ trimEnd (behind.takeWhile isBoundary) ++ behind.dropWhile isBoundary := by
  obtain ⟨raw, leading, content, trailing, hLeading, hTrailing, hResult⟩ :=
    result_between_bounded hAllowed ht removed between cache chooser hShape
  obtain ⟨d, hd, hBoundary⟩ := hBehind
  obtain ⟨hTake, hDrop⟩ := rtakeWhile_of_getLast? hFront
  rw [hTake] at hLeading
  have hBorders : leading.text text.toArray ++ trailing.text text.toArray =
      [' ', ' '] ++ behind.takeWhile isBoundary := by
    rw [hLeading, hTrailing]
    rfl
  have hHead : (behind.takeWhile isBoundary).head? = some d :=
    head?_takeWhile hd hBoundary
  have hVisible := between.behind_begin d hd
  have hMem : d ∈ [' ', ' '] ++ behind.takeWhile isBoundary :=
    List.mem_append_right _ (List.mem_of_mem_head? hHead)
  rw [hResult, hDrop, removeWord_of_visible hBorders hMem hVisible,
    trim_blank_append (by decide) fun e he => ?_]
  rw [hHead] at he
  rwa [← Option.some.inj he]

end Turn

namespace Engine

/-- Where the only term is removed as it is written and its word stands between two texts, they are
left with one space between them. A bounded term that finds further boundaries on one side leaves these
in place of the spaces, without the white space at their far end. -/
theorem expurgate_between (c : Config) (selector : Selector) (before : List Operation)
    {o : TermOptions} {t : Term} {text : String} {front behind : List Char} (profile : ProfileId)
    (record : Bool) :
    let current := c.after before
    let s := current.settings
    let filtered :=
      (((new c selector).after before).expurgate text profile record).1.outcome.filtered.toList
    current.terms = [o] → Term.compile o s = .ok t → current.Admits (current.resolve profile) o →
    current.allowList = ⟨[], []⟩ → o.RemovedExactly s →
    WordBetween front o.text.toList behind text.toList →
    (o.shapeIn s = .plain → WordEdged o.text.toList → filtered = front ++ ' ' :: behind) ∧
    (o.shapeIn s = .bounded →
      ((∀ d ∈ front.getLast?, isBoundary d = false) → (∀ d ∈ behind.head?, isBoundary d = false) →
        filtered = front ++ ' ' :: behind) ∧
      ((∃ d ∈ front.getLast?, isBoundary d = true) → (∀ d ∈ behind.head?, isBoundary d = false) →
        filtered =
          front.rdropWhile isBoundary ++ trimStart (front.rtakeWhile isBoundary) ++ behind) ∧
      ((∀ d ∈ front.getLast?, isBoundary d = false) → (∃ d ∈ behind.head?, isBoundary d = true) →
        filtered =
          front ++ trimEnd (behind.takeWhile isBoundary) ++ behind.dropWhile isBoundary)) := by
  intro current s filtered hTerms hCompile hProfile hAllowed removed between
  let chooser := ((new c selector).after before).selector
  have ht : Term.Prepared o (current.context chooser).replacer.settings t :=
    Term.prepared_of_compile hCompile
  have hStrict : (current.context chooser).allowList.isEmpty = true := by
    rw [Config.context, hAllowed]
    rfl
  have hMethod : s.filterMethod ≠ .off := by
    rw [removed.remove]
    decide
  have hText : text ≠ "" := by
    rintro rfl
    have hEmpty : 0 = _ := between.size_eq
    omega
  have hFiltered : filtered = ((⟨t, text.toList.toArray, .empty, chooser⟩ : Turn).result
      (current.context chooser)).text.toList :=
    filtered_alone c selector before record hTerms hCompile hProfile hMethod hText
  rw [hFiltered]
  refine ⟨Turn.result_between_plain hStrict ht removed between .empty _, fun hShape => ⟨?_, ?_, ?_⟩⟩
  · exact Turn.result_between_inner hStrict ht removed between .empty _ hShape
  · exact Turn.result_between_front hStrict ht removed between .empty _ hShape
  · exact Turn.result_between_behind hStrict ht removed between .empty _ hShape

end Engine

section Bounded

/-- A term that is bounded, as it is not Latin, and removed. -/
def Config.removingCyrillic : Config :=
  { Config.empty with
    settings := { Settings.default with filterMethod := .remove }
    terms := [.ofText "бля"] }

/-- The conditions of the removal hold of a Cyrillic word. Its boundaries are part of what its term
matches, since it is to be removed with a space. -/
theorem removedExactly_cyrillic :
    (TermOptions.ofText "бля").RemovedExactly Config.removingCyrillic.settings :=
  ⟨rfl, rfl, rfl, rfl⟩

theorem shapeIn_cyrillic :
    (TermOptions.ofText "бля").shapeIn Config.removingCyrillic.settings = .bounded := by
  decide

theorem exists_compile_cyrillic :
    ∃ t, Term.compile (.ofText "бля") Config.removingCyrillic.settings = .ok t :=
  Term.exists_compile (by decide) (by decide) (by decide)

namespace Engine

/-- A comma behind the spaces takes their place. -/
theorem expurgate_between_comma :
    let c := Config.removingCyrillic
    let filtered := ((new c (.fixed 0)).expurgate "ну бля , но" .all true).1.outcome.filtered
    (∃ t, Term.compile (.ofText "бля") c.settings = .ok t) ∧
      (TermOptions.ofText "бля").RemovedExactly c.settings ∧
      WordBetween "ну".toList "бля".toList ", но".toList "ну бля , но".toList ∧
      filtered.toList = "ну".toList ++ [','] ++ "но".toList := by
  have between : WordBetween "ну".toList "бля".toList ", но".toList "ну бля , но".toList := by
    refine ⟨by decide, ?_, ?_, WordBetween.once_of_lt (by decide) (by decide)⟩
    all_goals
      rintro d ⟨⟩
      decide
  have hFront : ∀ d ∈ "ну".toList.getLast?, isBoundary d = false := by
    rintro d ⟨⟩
    decide
  obtain ⟨t, hCompile⟩ := exists_compile_cyrillic
  refine ⟨⟨t, hCompile⟩, removedExactly_cyrillic, between, ?_⟩
  have hBehind := ((expurgate_between .removingCyrillic (.fixed 0) [] .all true rfl hCompile
    ⟨rfl, rfl⟩ rfl removedExactly_cyrillic between).2 shapeIn_cyrillic).2.2
  exact (hBehind hFront ⟨',', rfl, by decide⟩).trans (by decide)

/-- Behind a comma the space goes too. -/
theorem expurgate_between_loses_space :
    let c := Config.removingCyrillic
    let filtered := ((new c (.fixed 0)).expurgate "a, бля b" .all true).1.outcome.filtered
    c.terms = [.ofText "бля"] ∧ c.allowList = ⟨[], []⟩ ∧
      (∃ t, Term.compile (.ofText "бля") c.settings = .ok t) ∧
      (TermOptions.ofText "бля").RemovedExactly c.settings ∧
      trim "бля".toList = "бля".toList ∧
      WordBetween "a,".toList "бля".toList "b".toList "a, бля b".toList ∧
      filtered = "a,b" ∧ filtered ≠ "a," ++ " " ++ "b" := by
  intro c filtered
  have between : WordBetween "a,".toList "бля".toList "b".toList "a, бля b".toList := by
    refine ⟨by decide, ?_, ?_, WordBetween.once_of_lt (by decide) (by decide)⟩
    all_goals
      rintro d ⟨⟩
      decide
  have hBehind : ∀ d ∈ "b".toList.head?, isBoundary d = false := by
    rintro d ⟨⟩
    decide
  obtain ⟨t, hCompile⟩ := exists_compile_cyrillic
  have ht : Term.Prepared (.ofText "бля") (c.context (.fixed 0)).replacer.settings t :=
    Term.prepared_of_compile hCompile
  have hResult := Turn.result_between_front rfl ht removedExactly_cyrillic between .empty (.fixed 0)
    shapeIn_cyrillic ⟨',', rfl, by decide⟩ hBehind
  have hTurn : filtered.toList = _ := filtered_alone c (.fixed 0) [] true rfl hCompile ⟨rfl, rfl⟩
    (by decide) (by decide)
  have hFiltered : filtered = "a,b" := by
    rw [← String.toList_inj, hTurn]
    exact hResult.trans (by decide)
  refine ⟨rfl, rfl, ⟨t, hCompile⟩, removedExactly_cyrillic, by decide, between, hFiltered, ?_⟩
  rw [hFiltered]
  decide

end Engine

end Bounded

end Expurgate
