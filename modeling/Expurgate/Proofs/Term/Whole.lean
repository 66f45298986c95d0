import Expurgate.Proofs.Term.Word

/-! The tokens of a text, and terms that match whole tokens. A token is a longest run of word
characters and hyphens, less the hyphens at its ends. What a term of word characters takes of a text
with the method for whole words are the tokens that spell it somewhere. -/
namespace Expurgate

open Unicode Regex

/-- A run that cannot be made longer on either side. -/
structure LongestRun (kind : Char → Bool) (h : Array Char) (p q : Nat) : Prop where
  run : Run kind h p q
  before : ∀ c, charBefore h p = some c → kind c = false
  after : ∀ c, h[q]? = some c → kind c = false

/-- A longest run of word characters and hyphens, less the hyphens at its two ends. -/
structure IsToken (h : Array Char) (s : Span) : Prop where
  around : ∃ p q, LongestRun Shape.plain.joins h p q ∧ Run (· == '-') h p s.start ∧
    Run (· == '-') h s.stop q
  lt : s.start < s.stop
  head : h[s.start]? ≠ some '-'
  last : charBefore h s.stop ≠ some '-'

variable {h : Array Char} {p q i j : Nat}

theorem isWord_hyphen : isWord '-' = false := by decide

theorem joins_iff {c : Char} : Shape.plain.joins c = true ↔ isWord c = true ∨ c = '-' := by
  simp [Shape.joins]

theorem ne_hyphen_of_isWord {place : Option Char} (hWord : ∃ c, place = some c ∧ isWord c = true) :
    place ≠ some '-' := by
  obtain ⟨c, rfl, hKind⟩ := hWord
  rintro hHyphen
  rw [Option.some.inj hHyphen, isWord_hyphen] at hKind
  cases hKind

theorem not_isWord_of_joins {c : Char} (hJoins : Shape.plain.joins c = false) :
    isWord c = false := by
  rw [← Bool.not_eq_true]
  intro hWord
  rw [joins_iff.mpr (.inl hWord)] at hJoins
  cases hJoins

theorem isWord_of_joins {c : Char} (hJoins : Shape.plain.joins c = true) (hc : c ≠ '-') :
    isWord c = true :=
  (joins_iff.mp hJoins).resolve_right hc

namespace LongestRun

variable {kind : Char → Bool}

/-- Longest runs that share a place are the same. -/
theorem eq_of_mem {p' q' : Nat} (longest : LongestRun kind h p q) (other : LongestRun kind h p' q')
    (hIn : p ≤ i ∧ i < q) (hIn' : p' ≤ i ∧ i < q') : p = p' ∧ q = q' := by
  have hStart {a b a' b' : Nat} (first : LongestRun kind h a b) (second : LongestRun kind h a' b')
      (hIn : a ≤ i) (hIn' : i < b') : a ≤ a' := by
    by_contra hLess
    obtain ⟨c, hChar, hKind⟩ := second.run.each (a - 1) (by omega) (by omega)
    have hBefore : charBefore h a = some c := by rw [charBefore, if_neg (by omega), hChar]
    rw [first.before c hBefore] at hKind
    cases hKind
  have hStop {a b a' b' : Nat} (first : LongestRun kind h a b) (second : LongestRun kind h a' b')
      (hIn : i < b) (hIn' : a' ≤ i) : b' ≤ b := by
    by_contra hLess
    obtain ⟨c, hChar, hKind⟩ := second.run.each b (by omega) (by omega)
    rw [first.after c hChar] at hKind
    cases hKind
  constructor
  · exact Nat.le_antisymm (hStart longest other hIn.1 hIn'.2) (hStart other longest hIn'.1 hIn.2)
  · exact Nat.le_antisymm (hStop other longest hIn'.2 hIn.1) (hStop longest other hIn.2 hIn'.1)

/-- Every run lies within a longest one. -/
theorem exists_around (run : Run kind h i j) (hTo : j ≤ h.size) :
    ∃ p q, LongestRun kind h p q ∧ p ≤ i ∧ j ≤ q := by
  obtain ⟨p, front, hMost⟩ := Run.exists_longest kind h i
  obtain ⟨q, behind, hEnd⟩ := Run.exists_stop kind hTo
  exact ⟨p, q, ⟨front.trans (run.trans behind), front.before_longest hMost, hEnd⟩, front.le,
    behind.le⟩

end LongestRun

/-- A run of word characters and hyphens without a word character is made of hyphens. -/
theorem hyphens_of_joins (run : Run Shape.plain.joins h p q)
    (hNone : ∀ i c, p ≤ i → i < q → h[i]? = some c → isWord c = false) : Run (· == '-') h p q := by
  refine ⟨run.le, fun i hFrom hTo => ?_⟩
  obtain ⟨c, hChar, hJoins⟩ := run.each i hFrom hTo
  refine ⟨c, hChar, ?_⟩
  rcases joins_iff.mp hJoins with hWord | rfl
  · rw [hNone i c hFrom hTo hChar] at hWord
    cases hWord
  · rfl

section Tokens

variable {s s' : Span}

namespace IsToken

/-- A token is a run of the characters that are joined to words. -/
theorem run (token : IsToken h s) : Run Shape.plain.joins h s.start s.stop := by
  obtain ⟨p, q, longest, front, behind⟩ := token.around
  exact longest.run.mono front.le (Nat.le_of_lt token.lt) behind.le

theorem le_size (token : IsToken h s) : s.stop ≤ h.size := by
  have hLess := token.lt
  obtain ⟨c, hChar, -⟩ := token.run.each (s.stop - 1) (by omega) (by omega)
  have := (Array.getElem?_eq_some_iff.mp hChar).1
  omega

/-- No such character stands in front of it, so a word begins there. -/
theorem beginsWord (token : IsToken h s) : BeginsWord h s.start := by
  obtain ⟨p, q, longest, front, -⟩ := token.around
  constructor
  · obtain ⟨c, hChar, hJoins⟩ := token.run.each s.start (Nat.le_refl _) token.lt
    refine ⟨c, hChar, isWord_of_joins hJoins ?_⟩
    rintro rfl
    exact token.head hChar
  · intro c hBefore
    rcases Nat.eq_or_lt_of_le front.le with hSame | hLess
    · rw [← hSame] at hBefore
      exact not_isWord_of_joins (longest.before c hBefore)
    · rw [charBefore, if_neg (by omega)] at hBefore
      obtain ⟨d, hChar, hHyphen⟩ := front.each (s.start - 1) (by omega) (by omega)
      obtain rfl := Option.some.inj (hBefore.symm.trans hChar)
      rw [beq_iff_eq.mp hHyphen, isWord_hyphen]

theorem endsWord (token : IsToken h s) : EndsWord h s.stop := by
  obtain ⟨p, q, longest, -, behind⟩ := token.around
  have hLess := token.lt
  constructor
  · obtain ⟨c, hChar, hJoins⟩ := token.run.each (s.stop - 1) (by omega) (by omega)
    have hBefore : charBefore h s.stop = some c := by rw [charBefore, if_neg (by omega), hChar]
    refine ⟨c, hBefore, isWord_of_joins hJoins ?_⟩
    rintro rfl
    exact token.last hBefore
  · intro c hChar
    rcases Nat.eq_or_lt_of_le behind.le with hSame | hMore
    · rw [hSame] at hChar
      exact not_isWord_of_joins (longest.after c hChar)
    · obtain ⟨d, hChar', hHyphen⟩ := behind.each s.stop (Nat.le_refl _) hMore
      obtain rfl := Option.some.inj (hChar.symm.trans hChar')
      rw [beq_iff_eq.mp hHyphen, isWord_hyphen]

/-- Tokens that share a place are the same. -/
theorem eq_of_mem (token : IsToken h s) (other : IsToken h s') (hIn : s.start ≤ i ∧ i < s.stop)
    (hIn' : s'.start ≤ i ∧ i < s'.stop) : s = s' := by
  obtain ⟨p, q, longest, front, behind⟩ := token.around
  obtain ⟨p', q', longest', front', behind'⟩ := other.around
  have := front.le
  have := front'.le
  have := behind.le
  have := behind'.le
  obtain ⟨rfl, rfl⟩ := longest.eq_of_mem longest' (i := i) (by omega) (by omega)
  have hStart {a b : Span} (token : IsToken h a) (front : Run (· == '-') h p b.start)
      (hFrom : p ≤ a.start) : b.start ≤ a.start := by
    by_contra hLess
    obtain ⟨c, hChar, hHyphen⟩ := front.each a.start hFrom (by omega)
    rw [beq_iff_eq.mp hHyphen] at hChar
    exact token.head hChar
  have hStop {a b : Span} (token : IsToken h a) (behind : Run (· == '-') h b.stop q)
      (hTo : a.stop ≤ q) : a.stop ≤ b.stop := by
    by_contra hLess
    obtain ⟨c, hChar, hHyphen⟩ := behind.each (a.stop - 1) (by omega) (by omega)
    rw [beq_iff_eq.mp hHyphen] at hChar
    exact token.last (by rw [charBefore, if_neg (by omega), hChar])
  obtain ⟨a, b⟩ := s
  obtain ⟨a', b'⟩ := s'
  congr 1
  · exact Nat.le_antisymm (hStart other front front'.le) (hStart token front' front.le)
  · exact Nat.le_antisymm (hStop token behind' behind.le) (hStop other behind behind'.le)

end IsToken

/-- Word characters next to one another are part of a token. -/
theorem exists_isToken (run : Run isWord h i j) (hLess : i < j) (hTo : j ≤ h.size) :
    ∃ s, IsToken h s ∧ s.start ≤ i ∧ j ≤ s.stop := by
  obtain ⟨p, q, longest, hFrom, hUpTo⟩ := LongestRun.exists_around run.joins hTo
  have hq : q ≤ h.size := longest.run.le_size (by omega)
  obtain ⟨a, front, hHead⟩ := Run.exists_stop (· == '-') (h := h) (p := p) (by omega)
  obtain ⟨b, behind, hMost⟩ := Run.exists_longest (· == '-') h q
  have hLast := behind.before_longest hMost
  have hWord (k : Nat) (hFrom : i ≤ k) (hTo : k < j) (hHyphen : h[k]? = some '-') : False := by
    obtain ⟨c, hChar, hKind⟩ := run.each k hFrom hTo
    rw [hHyphen] at hChar
    rw [← Option.some.inj hChar, isWord_hyphen] at hKind
    cases hKind
  have ha : a ≤ i := by
    by_contra hLater
    obtain ⟨c, hChar, hHyphen⟩ := front.each i hFrom (by omega)
    rw [beq_iff_eq.mp hHyphen] at hChar
    exact hWord i (Nat.le_refl i) hLess hChar
  have hb : j ≤ b := by
    by_contra hEarlier
    have := behind.le
    obtain ⟨c, hChar, hHyphen⟩ := behind.each (j - 1) (by omega) (by omega)
    rw [beq_iff_eq.mp hHyphen] at hChar
    exact hWord (j - 1) (by omega) (by omega) hChar
  refine ⟨⟨a, b⟩, ⟨⟨p, q, longest, front, behind⟩, ?_, ?_, ?_⟩, ha, hb⟩
  · exact Nat.lt_of_le_of_lt ha (Nat.lt_of_lt_of_le hLess hb)
  · intro hHyphen
    have := hHead _ hHyphen
    simp at this
  · intro hHyphen
    have := hLast _ hHyphen
    simp at this

end Tokens

namespace Regex

variable {repeated : Bool} {l : List Char} {c : Captures}

/-- What spells a word without separators is made of word characters. -/
theorem isWord_of_spells {w : List Char} (spells : Spells repeated false l w)
    (hWord : ∀ d ∈ l, isWord d = true) : ∀ d ∈ w, isWord d = true := by
  intro d hd
  rcases spells.mem_cases d hd with ⟨e, he, hSame⟩ | ⟨hNone, -⟩
  · exact (isWord_of_sameFold hSame).symm.trans (hWord e he)
  · cases hNone

theorem wordEdged_of_isWord (hWord : ∀ d ∈ l, isWord d = true) : WordEdged l :=
  ⟨fun d hd => hWord d (List.mem_of_mem_head? hd), fun d hd => hWord d (List.mem_of_mem_getLast? hd)⟩

/-- Between a match and the end of the run around it there are only hyphens, since a match takes
words along as far as it can. -/
theorem hyphens_behind {x y : Nat} (parts : WordParts repeated false l h i x y j)
    (run : Run Shape.plain.joins h j q) : Run (· == '-') h j q := by
  apply hyphens_of_joins run
  intro k a hFrom hTo hChar
  rw [← Bool.not_eq_true]
  intro hKind
  have hk := (Array.getElem?_eq_some_iff.mp hChar).1
  obtain ⟨z, word, hEnd⟩ := Run.exists_stop isWord (h := h) (p := k) (by omega)
  have hLess : k < z := by
    refine Nat.lt_of_le_of_ne word.le ?_
    rintro rfl
    rw [hEnd a hChar] at hKind
    cases hKind
  have hz : EndsWord h z := by
    refine ⟨?_, hEnd⟩
    rw [charBefore, if_neg (by omega)]
    exact word.each (z - 1) (by omega) (by omega)
  have onward : Run Shape.plain.joins h j z :=
    (run.mono (Nat.le_refl j) hFrom (by omega)).trans word.joins
  have := parts.greatest z (parts.tail.trans onward) (holds_wordEdge_iff.mpr (.inr hz))
  omega

section Found

variable (hText : l ≠ []) (hWord : ∀ d ∈ l, isWord d = true)
include hWord

theorem WordParts.run {x y : Nat} (parts : WordParts repeated false l h i x y j) :
    Run Shape.plain.joins h i j := by
  have spelled : Run isWord h x y := run_of_text parts.le
    (Nat.le_trans parts.tail.le parts.le_size) (isWord_of_spells parts.spells hWord)
  exact parts.head.trans (spelled.joins.trans parts.tail)

include hText

theorem WordParts.lt {x y : Nat} (parts : WordParts repeated false l h i x y j) : i < j := by
  have hPhrase := (parts.spells.places (wordEdged_of_isWord hWord) hText
    (Nat.le_trans parts.tail.le parts.le_size)).1
  exact Nat.lt_of_le_of_lt parts.head.le (Nat.lt_of_lt_of_le hPhrase parts.tail.le)

/-- What a whole word finds is a word with the phrase in it, from a beginning of a word on. -/
theorem parts_of_mem_findAll
    (hMem : c ∈ (sequence (wholeWord (phrase repeated false l))).program.findAll h) :
    ∃ x y, WordParts repeated false l h c.start x y c.stop ∧ BeginsWord h c.start := by
  have hAlone : c ∈ (sequence (spaced false
      (wholeWord (phrase repeated false l)))).program.findAll h := hMem
  obtain ⟨i, x, y, j, front, parts, -, rfl, rfl⟩ := parts_of_spaced_wholeWord hAlone
  exact ⟨x, y, parts, parts.beginsWord (wordEdged_of_isWord hWord) hText hAlone front⟩

/-- Between a match and the beginning of the run around it there are only hyphens. If there were a
word, a match would begin with it or in front of it and reach as far as this one. -/
theorem hyphens_before
    (hMem : c ∈ (sequence (wholeWord (phrase repeated false l))).program.findAll h)
    (run : Run Shape.plain.joins h p c.start) : Run (· == '-') h p c.start := by
  obtain ⟨x, y, parts, hBegins⟩ := parts_of_mem_findAll hText hWord hMem
  have whole := parts.run hWord
  apply hyphens_of_joins run
  intro i a hFrom hTo hChar
  rw [← Bool.not_eq_true]
  intro hKind
  obtain ⟨z, word, hLongest⟩ := Run.exists_longest isWord h (i + 1)
  have hLess := word.longest_lt hLongest hChar hKind
  have hz : BeginsWord h z := ⟨(word.head hLess).1, word.before_longest hLongest⟩
  have ahead : Run Shape.plain.joins h z c.start :=
    word.joins.trans (run.mono (by omega) hTo (Nat.le_refl _))
  have hSize := Nat.le_trans whole.le parts.le_size
  obtain ⟨d, hOther, hd, hd'⟩ := exists_mem_findAll (productive_spaced_wholeWord false)
    (consumes_spaced_wholeWord false hText) (parts.matches_from ahead hz) (by omega)
  have hStop : d.stop ≤ c.start := Program.successive_findAll.stop_le_of_lt hOther hMem (by omega)
  obtain ⟨x', y', parts', -⟩ := parts_of_mem_findAll hText hWord hOther
  have onward : Run Shape.plain.joins h d.stop c.stop :=
    (ahead.mono (by omega) hStop (Nat.le_refl _)).trans whole
  have := parts'.greatest c.stop (parts'.tail.trans onward) parts.edge_stop
  have := parts.lt hText hWord
  omega

/-- A match of a phrase of word characters with the rest of its word is a token. -/
theorem isToken_of_mem_findAll
    (hMem : c ∈ (sequence (wholeWord (phrase repeated false l))).program.findAll h) :
    IsToken h ⟨c.start, c.stop⟩ := by
  obtain ⟨x, y, parts, hBegins⟩ := parts_of_mem_findAll hText hWord hMem
  have whole := parts.run hWord
  obtain ⟨p, q, longest, hFrom, hTo⟩ := LongestRun.exists_around whole parts.le_size
  have front := longest.run.mono (Nat.le_refl p) hFrom (Nat.le_trans whole.le hTo)
  have behind := longest.run.mono (Nat.le_trans hFrom whole.le) hTo (Nat.le_refl q)
  refine ⟨⟨p, q, longest, hyphens_before hText hWord hMem front, hyphens_behind parts behind⟩,
    ?_, ?_, ?_⟩
  · exact parts.lt hText hWord
  · exact ne_hyphen_of_isWord hBegins.here
  · exact ne_hyphen_of_isWord parts.endsWord.before

/-- The matches of a phrase of word characters with the rest of its word are the tokens that spell
it somewhere. -/
theorem mem_findAll_wholeWord_iff {s : Span} :
    (∃ c ∈ (sequence (wholeWord (phrase repeated false l))).program.findAll h,
        (⟨c.start, c.stop⟩ : Span) = s) ↔
      IsToken h s ∧ ∃ i j, s.start ≤ i ∧ i ≤ j ∧ j ≤ s.stop ∧
        Spells repeated false l (Span.text ⟨i, j⟩ h) := by
  constructor
  · rintro ⟨c, hMem, rfl⟩
    obtain ⟨x, y, parts, -⟩ := parts_of_mem_findAll hText hWord hMem
    exact ⟨isToken_of_mem_findAll hText hWord hMem, x, y, parts.head.le, parts.le, parts.tail.le,
      parts.spells⟩
  · rintro ⟨token, i, j, hi, hLe, hj, spells⟩
    have inner : (sequence (filled .plain (phrase repeated false l))).Matches h s.start s.stop [] :=
      (matches_filled_iff token.le_size).mpr ⟨⟨i, j,
        token.run.mono (Nat.le_refl _) hi (Nat.le_trans hLe hj), hLe, spells,
        token.run.mono (Nat.le_trans hi hLe) hj (Nat.le_refl _)⟩, rfl⟩
    have hEdges : Shape.plain.Admits h s.start s.stop :=
      ⟨holds_wordEdge_iff.mpr (.inl token.beginsWord), holds_wordEdge_iff.mpr (.inr token.endsWord)⟩
    obtain ⟨c, hMem, hFrom, hTo⟩ := exists_mem_findAll (productive_spaced_wholeWord false)
      (consumes_spaced_wholeWord false hText) (matches_wholeWord_iff.mpr ⟨hEdges, inner⟩)
      (Nat.le_trans (Nat.le_of_lt token.lt) token.le_size)
    exact ⟨c, hMem, (isToken_of_mem_findAll hText hWord hMem).eq_of_mem token ⟨hFrom, hTo⟩
      ⟨Nat.le_refl _, token.lt⟩⟩

end Found

end Regex

namespace Term

variable {o : TermOptions} {s : Settings} {t : Term}

/-- A term of word characters that is to match whole words matches, one after another and each once,
the tokens of a text that spell the term somewhere, whatever is done with its matches. -/
theorem occurrences_tokens (hCompile : compile o s = .ok t) (hMethod : o.methodIn s = .whole)
    (hShape : o.shapeIn s = .plain) (hWord : ∀ d ∈ o.text.toList, isWord d = true)
    (hSeparators : o.separatorsIn s = false) (h : Array Char) :
    (t.occurrences h).Pairwise (fun c d => c.stop ≤ d.start) ∧
      ∀ token : Span, (∃ c ∈ t.occurrences h, (⟨c.start, c.stop⟩ : Span) = token) ↔
        IsToken h token ∧ ∃ i j, token.start ≤ i ∧ i ≤ j ∧ j ≤ token.stop ∧
          Spells (o.repeatedIn s) false o.text.toList (Span.text ⟨i, j⟩ h) := by
  have ht := prepared_of_compile hCompile
  have hExpression : o.expression s =
      sequence (wholeWord (phrase (o.repeatedIn s) false o.text.toList)) := by
    rw [TermOptions.expression, hMethod, hShape, hSeparators]
    rfl
  rw [occurrences, ht.program_eq (by simp [hMethod]), hExpression]
  constructor
  · exact Program.successive_findAll.pairwise
  · intro token
    exact mem_findAll_wholeWord_iff ht.toList_ne_nil hWord

/-- The whole of a word is matched for a part of it, with the second half of the word and without
the hyphen behind. -/
theorem occurrences_tokens_hyphened :
    ∃ t, compile ((TermOptions.ofText "ass").withMethod .whole) .default = .ok t ∧
      ∃ c ∈ t.occurrences "a brass-band- ".toList.toArray, (⟨c.start, c.stop⟩ : Span) = ⟨2, 12⟩ := by
  obtain ⟨t, ht⟩ := @exists_compile ((TermOptions.ofText "ass").withMethod .whole) .default
    (by decide) (by decide) (by decide)
  obtain ⟨-, hTokens⟩ := occurrences_tokens ht (by decide) (by decide)
    (List.all_eq_true.mp (by decide)) (by decide) "a brass-band- ".toList.toArray
  refine ⟨t, ht, (hTokens ⟨2, 12⟩).mpr ⟨?_, 4, 7, by decide, by decide, by decide, ?_⟩⟩
  · refine ⟨⟨2, 13, ⟨run_of_text (by decide) (by decide) (List.all_eq_true.mp (by decide)), ?_, ?_⟩,
      .refl 2, run_of_text (by decide) (by decide) (List.all_eq_true.mp (by decide))⟩, by decide,
      by decide, by decide⟩
    · rintro c ⟨⟩
      decide
    · rintro c ⟨⟩
      decide
  · exact .self false false "ass".toList

end Term

end Expurgate
