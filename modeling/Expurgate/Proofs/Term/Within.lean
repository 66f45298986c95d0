import Expurgate.Proofs.Term.Lookup

/-! Terms that match inside words. Their matches are the stretches that spell them, and for a term
made of word characters this is also the word that is compared with the allowed ones. -/
namespace Expurgate

open Unicode

theorem dropWhile_of_head {kind : Char → Bool} {l : List Char}
    (hHead : ∀ c ∈ l.head?, kind c = false) : l.dropWhile kind = l ∧ l.takeWhile kind = [] := by
  cases l with
  | nil => exact ⟨rfl, rfl⟩
  | cons c rest => simp [hHead c rfl]

/-- A content without white space at its ends is compared with allowed words as it is. -/
theorem MatchParts.word_eq {m : MatchParts} {h : Array Char} (hTo : m.content.stop ≤ h.size)
    (hLe : m.content.start ≤ m.content.stop)
    (hHead : ∀ c ∈ (m.content.text h).head?, isSpace c = false)
    (hLast : ∀ c ∈ (m.content.text h).getLast?, isSpace c = false) : m.word h = m.content := by
  obtain ⟨hStart, hTake⟩ := dropWhile_of_head hHead
  rw [List.getLast?_eq_head?_reverse] at hLast
  obtain ⟨hEnd, -⟩ := dropWhile_of_head hLast
  have hLength : (m.content.text h).length = m.content.stop - m.content.start :=
    Span.length_text hTo
  simp only [word, trim, trimStart, trimEnd, hStart, hTake, hEnd, List.reverse_reverse,
    List.length_nil, Nat.add_zero, hLength]
  rw [Nat.add_sub_cancel' hLe]

namespace Term

variable {o : TermOptions} {s : Settings} {t : Term} {h : Array Char} {c : Captures}

/-- Where nothing is removed, a partial term is written as its phrase and nothing around it. -/
theorem Prepared.expression_within (ht : Prepared o s t) (hMethod : o.methodIn s = .within)
    (hKeep : s.filterMethod ≠ .remove) : o.expression s = Regex.sequence
      (Regex.ofPhrase .within t.shape false
        (Regex.phrase t.repeated t.separators t.text.toList)) := by
  simp only [TermOptions.expression, hMethod, hKeep, decide_false, ht.shape, ht.repeated,
    ht.separators, ht.text]

/-- A term that matches inside words matches what spells it, and nothing around. -/
theorem Prepared.within_parts (ht : Prepared o s t) (hMethod : o.methodIn s = .within)
    (hKeep : s.filterMethod ≠ .remove) (hMem : c ∈ t.occurrences h) :
    c.start ≤ c.stop ∧ c.stop ≤ h.size ∧
      Spells t.repeated t.separators t.text.toList (Span.text ⟨c.start, c.stop⟩ h) ∧
      ∃ m, t.split c = some m ∧ m.raw = ⟨c.start, c.stop⟩ ∧ m.content = ⟨c.start, c.stop⟩ := by
  let phrase := Regex.phrase t.repeated t.separators t.text.toList
  have hProductive := o.productive_expression s
  have hExpression := ht.expression_within hMethod hKeep
  rw [occurrences, ht.program_eq (by simp [hMethod])] at hMem
  obtain ⟨hStart, way⟩ := Regex.prefers_of_mem_findAll hProductive hMem
  have hLe := way.matches.1.le
  have hSize := way.matches.1.le_size hStart
  refine ⟨hLe, hSize, ?_⟩
  rw [hExpression] at way
  cases hShape : t.shape with
  | plain =>
      rw [hShape] at way
      exact ⟨((Regex.matches_phrase_iff hLe hSize).mp way.matches.1).1, _, split_plain hShape c,
        rfl, rfl⟩
  | bounded =>
      rw [hShape] at way
      change (Regex.grouped .empty (Regex.sequence phrase) .empty).Prefers h _ _ _ _ at way
      have hEmpty : Regex.empty.Bare := trivial
      obtain ⟨i, j, first, second, third, hMarks⟩ := Regex.prefers_grouped hEmpty
        ((Regex.bare_sequence _).mpr fun _ => Regex.bare_of_mem_phrase) hEmpty way
      obtain ⟨hi, -⟩ := Regex.matches_empty_iff.mp first.matches.1
      obtain ⟨hj, -⟩ := Regex.matches_empty_iff.mp third.matches.1
      rw [hi, ← hj] at second
      refine ⟨((Regex.matches_phrase_iff hLe hSize).mp second.matches.1).1, _,
        split_bounded hShape hMarks, rfl, ?_⟩
      rw [hi, ← hj]
      rfl

/-- Wherever a stretch spells the term, some match covers its beginning. -/
theorem Prepared.exists_within (ht : Prepared o s t) (hMethod : o.methodIn s = .within)
    (hKeep : s.filterMethod ≠ .remove) {p q : Nat} (hLe : p ≤ q) (hTo : q ≤ h.size)
    (spells : Spells t.repeated t.separators t.text.toList (Span.text ⟨p, q⟩ h)) :
    ∃ c ∈ t.occurrences h, c.start ≤ p ∧ p < c.stop := by
  let phrase := Regex.phrase t.repeated t.separators t.text.toList
  have hExpression := ht.expression_within hMethod hKeep
  have hPhrase : (Regex.sequence phrase).Matches h p q [] :=
    (Regex.matches_phrase_iff hLe hTo).mpr ⟨spells, rfl⟩
  have hText : t.text.toList ≠ [] := by
    rw [ht.text]
    exact ht.toList_ne_nil
  have hConsumes : (Regex.sequence phrase).consumes = true := Regex.consumes_phrase hText
  have hProductive := o.productive_expression s
  rw [occurrences, ht.program_eq (by simp [hMethod])]
  rw [hExpression] at hProductive ⊢
  cases hShape : t.shape with
  | plain =>
      rw [hShape] at hProductive
      exact Regex.exists_mem_findAll hProductive hConsumes hPhrase (by omega)
  | bounded =>
      rw [hShape] at hProductive
      refine Regex.exists_mem_findAll hProductive ?_
        (.seq (.capture (.empty p)) (.seq (.capture hPhrase) (.capture (.empty q)))) (by omega)
      change (Regex.grouped .empty (Regex.sequence phrase) .empty).consumes = true
      simp [Regex.grouped, Regex.consumes_sequence, Regex.consumes, hConsumes]

/-- A match of a term that is made of word characters. -/
structure FoundAt (t : Term) (h : Array Char) (c : Captures) : Prop where
  lt : c.start < c.stop
  le_size : c.stop ≤ h.size
  found : Found t.repeated t.separators t.text.toList h (Span.text ⟨c.start, c.stop⟩ h)
  parts : ∃ m, t.split c = some m ∧ m.raw = ⟨c.start, c.stop⟩ ∧ m.content = ⟨c.start, c.stop⟩ ∧
    m.word h = ⟨c.start, c.stop⟩

/-- What a partial term finds is spelled like it at the place. Nothing is known about the characters
on either side. -/
theorem Prepared.foundAt (ht : Prepared o s t) (hMethod : o.methodIn s = .within)
    (hKeep : s.filterMethod ≠ .remove) (hWord : ∀ d ∈ t.text.toList, isWord d = true)
    (hMem : c ∈ t.occurrences h) : t.FoundAt h c := by
  obtain ⟨hLe, hSize, spells, m, hSplit, hRaw, hContent⟩ := ht.within_parts hMethod hKeep hMem
  have hLess : c.start < c.stop := by
    have hLong := spells.length_le
    have hText : t.text.toList ≠ [] := by
      rw [ht.text]
      exact ht.toList_ne_nil
    have := List.length_pos_iff.mpr hText
    rw [Span.length_text hSize] at hLong
    omega
  have hSolid {d : Char} (hSome : ∃ e ∈ t.text.toList, sameFold e d = true) :
      isSpace d = false := by
    obtain ⟨e, he, hSame⟩ := hSome
    exact isSpace_of_isWord ((isWord_of_sameFold hSame).symm.trans (hWord e he))
  have hPart : m.word h = m.content := by
    apply MatchParts.word_eq <;> rw [hContent]
    · exact hSize
    · exact hLe
    · exact fun d hd => hSolid (spells.ends.1 d hd)
    · exact fun d hd => hSolid (spells.ends.2 d hd)
  refine ⟨hLess, hSize, ⟨spells, ?_⟩, m, hSplit, hRaw, hContent, hPart.trans hContent⟩
  intro d hd
  rw [Span.text_eq] at hd
  exact List.mem_of_mem_drop (List.mem_of_mem_take hd)

end Term

end Expurgate
