import Expurgate.Proofs.Term.Prepared
import Expurgate.Proofs.Term.Span

/-! What it means that a text spells a term, and that the expression of a phrase matches exactly the
stretches which do. -/
namespace Expurgate

open Unicode

/-- Characters that stand for one character of a term: the character in any case, several times if
it may be repeated. -/
structure IsGroup (repeated : Bool) (c : Char) (group : List Char) : Prop where
  nonempty : group ≠ []
  same : ∀ d ∈ group, sameFold c d = true
  single : repeated = false → group.length = 1

/-- A text spells a term character by character. Separators may stand between the characters if the
term allows them. -/
inductive Spells (repeated separators : Bool) : List Char → List Char → Prop where
  | nil : Spells repeated separators [] []
  | last {c : Char} {group : List Char} (hGroup : IsGroup repeated c group) :
      Spells repeated separators [c] group
  | cons {c d : Char} {rest group gap word : List Char} (hGroup : IsGroup repeated c group)
      (hGap : ∀ x ∈ gap, separators = true ∧ isSeparator x = true)
      (tail : Spells repeated separators (d :: rest) word) :
      Spells repeated separators (c :: d :: rest) (group ++ (gap ++ word))

/-- To spell a word takes a character for each of its letters, and more where letters are repeated
or separated. -/
theorem Spells.length_le {repeated separators : Bool} {l w : List Char}
    (spells : Spells repeated separators l w) : l.length ≤ w.length := by
  induction spells with
  | nil => exact Nat.le_refl _
  | last hGroup => exact List.length_pos_iff.mpr hGroup.nonempty
  | cons hGroup _ _ ih =>
      have := List.length_pos_iff.mpr hGroup.nonempty
      simp only [List.length_cons, List.length_append] at *
      omega

theorem IsGroup.self (repeated : Bool) (c : Char) : IsGroup repeated c [c] :=
  ⟨by simp, by simpa using sameFold_refl c, fun _ => rfl⟩

/-- Every text spells itself. -/
theorem Spells.self (repeated separators : Bool) (l : List Char) :
    Spells repeated separators l l := by
  induction l with
  | nil => exact .nil
  | cons c rest ih =>
      cases rest with
      | nil => exact .last (.self repeated c)
      | cons d rest =>
          exact @Spells.cons _ _ c d rest [c] [] (d :: rest) (.self repeated c) nofun ih

/-- Without repetition and separators a text spells what it is equal to up to case. -/
theorem spells_iff_foldEq {l w : List Char} : Spells false false l w ↔ FoldEq l w := by
  constructor
  · intro spells
    induction spells with
    | nil => exact .nil
    | last hGroup =>
        obtain ⟨d, rfl⟩ := List.length_eq_one_iff.mp (hGroup.single rfl)
        exact .cons (hGroup.same d (by simp)) .nil
    | @cons c d rest group gap word hGroup hGap _ ih =>
        obtain ⟨e, rfl⟩ := List.length_eq_one_iff.mp (hGroup.single rfl)
        have hNone : gap = [] := List.eq_nil_iff_forall_not_mem.mpr fun x hx =>
          Bool.false_ne_true (hGap x hx).1
        subst hNone
        exact .cons (hGroup.same e (by simp)) ih
  · intro hEq
    have hGroup {c d : Char} (hSame : sameFold c d = true) : IsGroup false c [d] :=
      ⟨by simp, by simpa using hSame, fun _ => rfl⟩
    induction hEq with
    | nil => exact .nil
    | @cons c d rest word hSame hRest ih =>
        cases rest with
        | nil =>
            cases hRest
            exact .last (hGroup hSame)
        | cons e rest => exact @Spells.cons _ _ c e rest [d] [] word (hGroup hSame) nofun ih

/-- Each character of a text that spells a term is one of the term's in some case, or a separator. -/
theorem Spells.mem_cases {repeated separators : Bool} {l w : List Char}
    (spells : Spells repeated separators l w) : ∀ d ∈ w,
      (∃ c ∈ l, sameFold c d = true) ∨ (separators = true ∧ isSeparator d = true) := by
  induction spells with
  | nil => exact nofun
  | @last c group hGroup =>
      intro d hd
      exact .inl ⟨c, by simp, hGroup.same d hd⟩
  | @cons c c' rest group gap word hGroup hGap _ ih =>
      intro d hd
      simp only [List.mem_append] at hd
      rcases hd with hFirst | hBetween | hRest
      · exact .inl ⟨c, by simp, hGroup.same d hFirst⟩
      · exact .inr (hGap d hBetween)
      · rcases ih d hRest with ⟨e, he, hSame⟩ | hSeparator
        · exact .inl ⟨e, by simp [he], hSame⟩
        · exact .inr hSeparator

/-- What spells a text begins with its first character in some case, and ends with its last one. -/
theorem Spells.sameFold_ends {repeated separators : Bool} {l w : List Char}
    (spells : Spells repeated separators l w) :
    (∀ d ∈ w.head?, ∃ c ∈ l.head?, sameFold c d = true) ∧
      ∀ d ∈ w.getLast?, ∃ c ∈ l.getLast?, sameFold c d = true := by
  induction spells with
  | nil => exact ⟨nofun, nofun⟩
  | @last c group hGroup =>
      exact ⟨fun d hd => ⟨c, rfl, hGroup.same d (List.mem_of_mem_head? hd)⟩,
        fun d hd => ⟨c, rfl, hGroup.same d (List.mem_of_mem_getLast? hd)⟩⟩
  | @cons c c' rest group gap word hGroup _ tail ih =>
      have hWord : word ≠ [] := by
        rintro rfl
        exact absurd tail.length_le (by simp)
      constructor
      · intro d hd
        rw [List.head?_append_of_ne_nil _ hGroup.nonempty] at hd
        exact ⟨c, rfl, hGroup.same d (List.mem_of_mem_head? hd)⟩
      · intro d hd
        rw [← List.append_assoc, List.getLast?_append_of_ne_nil _ hWord] at hd
        obtain ⟨e, he, hSame⟩ := ih.2 d hd
        exact ⟨e, by rwa [List.getLast?_cons_cons], hSame⟩

/-- No separator stands at an end of such a text. -/
theorem Spells.ends {repeated separators : Bool} {l w : List Char}
    (spells : Spells repeated separators l w) :
    (∀ d ∈ w.head?, ∃ c ∈ l, sameFold c d = true) ∧
      ∀ d ∈ w.getLast?, ∃ c ∈ l, sameFold c d = true := by
  constructor
  · intro d hd
    obtain ⟨c, hc, hSame⟩ := spells.sameFold_ends.1 d hd
    exact ⟨c, List.mem_of_mem_head? hc, hSame⟩
  · intro d hd
    obtain ⟨c, hc, hSame⟩ := spells.sameFold_ends.2 d hd
    exact ⟨c, List.mem_of_mem_getLast? hc, hSame⟩

theorem isSeparator_of_sameFold {c d : Char} (hSame : sameFold c d = true)
    (hSeparator : isSeparator c = true) : isSeparator d = true := by
  have hMark : c ∈ patternMarks := by
    rcases isSeparator_iff.mp hSeparator with rfl | rfl | rfl <;> decide
  rwa [(sameFold_patternMark hMark).mp hSame]

/-- The case of a text does not matter to what it spells. -/
theorem Spells.of_foldEq {repeated separators : Bool} {l w w' : List Char}
    (spells : Spells repeated separators l w) (hEq : FoldEq w w') :
    Spells repeated separators l w' := by
  have hGroup' {c : Char} {group group' : List Char} (hGroup : IsGroup repeated c group)
      (hSame : FoldEq group group') : IsGroup repeated c group' := by
    refine ⟨?_, ?_, fun hSingle => ?_⟩
    · rintro rfl
      exact hGroup.nonempty (List.forall₂_nil_right_iff.mp hSame)
    · intro d' hd'
      obtain ⟨d, hd, hFold⟩ := hSame.symm.exists_mem hd'
      exact sameFold_trans (hGroup.same d hd) (by rwa [sameFold_comm])
    · rw [← hSame.length_eq]
      exact hGroup.single hSingle
  induction spells generalizing w' with
  | nil => cases hEq; exact .nil
  | last hGroup => exact .last (hGroup' hGroup hEq)
  | cons hGroup hGap _ ih =>
      obtain ⟨group', rest', rfl, hFirst, hRest⟩ := hEq.exists_append
      obtain ⟨gap', word', rfl, hSecond, hThird⟩ := hRest.exists_append
      refine .cons (hGroup' hGroup hFirst) ?_ (ih hThird)
      intro x' hx'
      obtain ⟨x, hx, hFold⟩ := hSecond.symm.exists_mem hx'
      exact ⟨(hGap x hx).1, isSeparator_of_sameFold (by rwa [sameFold_comm]) (hGap x hx).2⟩

namespace Regex

variable {h : Array Char} {p q : Nat} {m : List (Nat × Nat)}

theorem Run.forall_text {kind : Char → Bool} (run : Run kind h p q) :
    ∀ c ∈ Span.text ⟨p, q⟩ h, kind c = true := by
  intro c hMem
  obtain ⟨i, hi⟩ := List.mem_iff_getElem?.mp hMem
  have hLess : p + i < q := by
    have hLength := (List.getElem?_eq_some_iff.mp hi).1
    rw [Span.text_eq, List.length_take] at hLength
    dsimp only at hLength
    omega
  obtain ⟨d, hChar, hKind⟩ := run.each (p + i) (by omega) hLess
  rw [Span.getElem?_text i hLess, hChar] at hi
  rwa [← Option.some.inj hi]

theorem run_of_text {kind : Char → Bool} (hLe : p ≤ q) (hTo : q ≤ h.size)
    (hText : ∀ c ∈ Span.text ⟨p, q⟩ h, kind c = true) : Run kind h p q := by
  refine ⟨hLe, fun i hFrom hLess => ?_⟩
  have hChar : h[i]? = some h[i] := Array.getElem?_eq_getElem (by omega)
  refine ⟨h[i], hChar, hText _ (List.mem_iff_getElem?.mpr ⟨i - p, ?_⟩)⟩
  rw [Span.getElem?_text _ (by omega), Nat.add_sub_cancel' hFrom, hChar]

/-- A letter matches a group of letters that fold like it, of which there is just one where
repetition is off. -/
theorem matches_letter_iff {repeated : Bool} {c : Char} (hLe : p ≤ q) (hTo : q ≤ h.size) :
    (letter repeated c).Matches h p q m ↔ IsGroup repeated c (Span.text ⟨p, q⟩ h) ∧ m = [] := by
  have hKind : (CharSet.letter c).contains = sameFold c := funext (CharSet.contains_letter c)
  have hLength := Span.length_text (i := p) hTo
  cases repeated with
  | false =>
      rw [letter, if_neg (by simp), matches_set_iff, hKind]
      constructor
      · rintro ⟨⟨d, hChar, hSame⟩, rfl, rfl⟩
        rw [Span.text_succ hChar]
        exact ⟨⟨by simp, by simpa using hSame, fun _ => rfl⟩, rfl⟩
      · rintro ⟨hGroup, rfl⟩
        have hNext : q = p + 1 := by
          have := hGroup.single rfl
          omega
        subst hNext
        have run := run_of_text hLe hTo hGroup.same
        exact ⟨run.each p (Nat.le_refl p) (Nat.lt_succ_self p), rfl, rfl⟩
  | true =>
      rw [letter, if_pos rfl, matches_loop_set_iff, hKind]
      constructor
      · rintro ⟨run, hLess, rfl⟩
        refine ⟨⟨Span.text_ne_nil hLess hTo, run.forall_text, ?_⟩, rfl⟩
        intro hSingle
        cases hSingle
      · rintro ⟨hGroup, rfl⟩
        have := List.length_pos_iff.mpr hGroup.nonempty
        exact ⟨run_of_text hLe hTo hGroup.same, by omega, rfl⟩

/-- Between two letters any separators may stand if they are allowed, and nothing else. -/
theorem matches_gap_iff {separators : Bool} (hLe : p ≤ q) (hTo : q ≤ h.size) :
    (sequence (gap separators)).Matches h p q m ↔
      (∀ c ∈ Span.text ⟨p, q⟩ h, separators = true ∧ isSeparator c = true) ∧ m = [] := by
  have hKind : CharSet.separator.contains = isSeparator := funext CharSet.contains_separator
  cases separators with
  | false =>
      rw [gap, if_neg (by simp), matches_sequence_nil]
      constructor
      · rintro ⟨rfl, rfl⟩
        simp [Span.text_self]
      · rintro ⟨hNone, rfl⟩
        refine ⟨?_, rfl⟩
        by_contra hNe
        obtain ⟨c, hMem⟩ := List.exists_mem_of_ne_nil _ (Span.text_ne_nil (h := h) (i := p)
          (j := q) (by omega) hTo)
        simpa using (hNone c hMem).1
  | true =>
      rw [gap, if_pos rfl, sequence, separatorRun, matches_star_set_iff, hKind]
      constructor
      · rintro ⟨run, rfl⟩
        exact ⟨fun c hMem => ⟨rfl, run.forall_text c hMem⟩, rfl⟩
      · rintro ⟨hAll, rfl⟩
        exact ⟨run_of_text hLe hTo fun c hMem => (hAll c hMem).2, rfl⟩

/-- The expression of a phrase matches the stretches that spell the term, and no others. -/
theorem matches_phrase_iff {repeated separators : Bool} {l : List Char} (hLe : p ≤ q)
    (hTo : q ≤ h.size) :
    (sequence (phrase repeated separators l)).Matches h p q m ↔
      Spells repeated separators l (Span.text ⟨p, q⟩ h) ∧ m = [] := by
  induction l generalizing p m with
  | nil =>
      rw [phrase, matches_sequence_nil]
      constructor
      · rintro ⟨rfl, rfl⟩
        exact ⟨by rw [Span.text_self]; exact .nil, rfl⟩
      · rintro ⟨spells, rfl⟩
        refine ⟨?_, rfl⟩
        by_contra hNe
        refine Span.text_ne_nil (h := h) (i := p) (j := q) (by omega) hTo ?_
        generalize Span.text ⟨p, q⟩ h = w at spells
        cases spells
        rfl
  | cons c rest ih =>
      cases rest with
      | nil =>
          rw [phrase, sequence, matches_letter_iff hLe hTo]
          refine and_congr_left fun _ => ⟨.last, fun spells => ?_⟩
          cases spells
          assumption
      | cons d rest =>
          rw [phrase, matches_sequence_cons]
          · constructor
            · rintro ⟨s, m₁, m₂, first, second, rfl⟩
              obtain ⟨s', m₃, m₄, hGap, tail, rfl⟩ := (matches_sequence_append _ _).mp second
              have hs := first.le
              have hs' := hGap.le
              have hq := tail.le
              obtain ⟨hGroup, rfl⟩ := (matches_letter_iff hs (by omega)).mp first
              obtain ⟨hSeparators, rfl⟩ := (matches_gap_iff hs' (by omega)).mp hGap
              obtain ⟨spells, rfl⟩ := (ih hq).mp tail
              refine ⟨?_, rfl⟩
              have hCut := Spells.cons hGroup hSeparators spells
              rwa [Span.text_append hs' hq, Span.text_append hs (by omega)] at hCut
            · rintro ⟨spells, rfl⟩
              generalize hText : Span.text ⟨p, q⟩ h = w at spells
              cases spells with
              | cons hGroup hGap tail =>
                  obtain ⟨s, hs, hsq, rfl, hRest⟩ := Span.exists_cut hLe hTo hText
                  obtain ⟨s', hs', hq, rfl, rfl⟩ := Span.exists_cut hsq hTo hRest
                  refine ⟨s, [], [], (matches_letter_iff hs (by omega)).mpr ⟨hGroup, rfl⟩, ?_, rfl⟩
                  rw [matches_sequence_append]
                  exact ⟨s', [], [], (matches_gap_iff hs' (by omega)).mpr ⟨hGap, rfl⟩,
                    (ih hq).mpr ⟨tail, rfl⟩, rfl⟩
          · simp

end Regex

end Expurgate
