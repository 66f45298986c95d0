import Expurgate.Proofs.Pattern.Reading
import Expurgate.Proofs.Term.Prepared

/-! The texts of terms' patterns. The text that is built for a term is read back as the pattern it
was built from, whatever characters the term has. -/
namespace Expurgate

namespace Pattern

variable {repeated separators : Bool} {l : List Char}

theorem reads_separatorRun (g : Nat) : Reads [separatorRun] g g :=
  (atom_bracket (by simp) (by decide) false).repetition '*' rfl rfl g

/-- A dash that a bracket follows stands for itself. -/
theorem atom_wordOrHyphen : Atom (.bracket false (items [.short .word false, verbatim '-'])) := by
  have hRead (g : Nat) (tail : List Char) :
      parseClass (.before ('\\' :: 'w' :: '-' :: ']' :: tail) g) =
        .ok (.bracket false (items [.short .word false, verbatim '-']), .before tail g) :=
    rfl
  exact ⟨fun w => .cons (by decide) (by decide) _, by decide,
    fun f g acc tail => parseItems_class (hRead g tail), fun _ _ _ => rfl⟩

theorem reads_wordRun (g : Nat) : Reads [wordRun] g g :=
  atom_wordOrHyphen.repetition '*' rfl rfl g

theorem reads_boundaryRun (g : Nat) : Reads [boundaryRun] g g :=
  (atom_bracket (by simp) (by decide) false).repetition '+' rfl rfl g

theorem reads_tokenRun (g : Nat) : Reads [tokenRun] g g :=
  (atom_bracket (by simp) (by decide) true).repetition '*' rfl rfl g

theorem reads_optionalSpace (g : Nat) : Reads [optionalSpace] g g :=
  (atom_short .space false).repetition '?' rfl rfl g

/-- A letter is read back as it is written, quoted or not, and repeated or not. -/
theorem reads_letter (repeated : Bool) (c : Char) (g : Nat) : Reads [letter repeated c] g g := by
  cases repeated
  · exact (atom_literal c).reads g
  · exact (atom_literal c).repetition '+' rfl rfl g

/-- So is a phrase. No item of it opens a group, so the numbering is not moved by it. -/
theorem reads_phrase (repeated separators : Bool) (l : List Char) (g : Nat) :
    Reads (phrase repeated separators l) g g := by
  induction l using phrase.induct with
  | case1 => exact .nil g
  | case2 c => exact reads_letter repeated c g
  | case3 c rest hRest ih =>
      rw [phrase.eq_3 _ _ _ _ hRest]
      refine .cons (reads_letter repeated c g) (.append ?_ ih)
      cases separators
      · exact .nil g
      · exact reads_separatorRun g

/-- The groups of a bounded pattern are numbered as their parentheses open. -/
theorem reads_between {content : List Pattern} (hContent : Reads content 2 2) :
    Reads (between content) 0 3 :=
  .cons (.capture ((reads_caret 1).alternate (reads_boundaryRun 1).branches))
    (.cons (.capture hContent.branches)
      (.capture ((reads_boundaryRun 3).alternate (reads_dollar 3).branches)))

/-- The source of a whole expression is read back, for each method and each shape. Groups are opened
by the bounded shape alone. -/
theorem reads_ofPhrase (method : MatchMethod) (shape : Shape) (remove : Bool)
    {phrase : List Pattern} (hPhrase : ∀ g, Reads phrase g g) :
    ∃ g', Reads (ofPhrase method shape remove phrase) 0 g' := by
  have hSpace {ps : List Pattern} (inner : Reads ps 0 0) : Reads (withSpace ps) 0 0 :=
    .cons (reads_optionalSpace 0) (.append inner (reads_optionalSpace 0))
  have hToken : Reads (wholeToken phrase) 0 3 :=
    reads_between (.cons (reads_tokenRun 2) (.append (hPhrase 2) (reads_tokenRun 2)))
  have hWord : Reads (wholeWord phrase) 0 0 :=
    .cons (reads_edge 0) (.cons (reads_wordRun 0)
      (.append (hPhrase 0) (.cons (reads_wordRun 0) (reads_edge 0))))
  have hEdges : Reads (edge :: (phrase ++ [edge])) 0 0 :=
    .cons (reads_edge 0) (.append (hPhrase 0) (reads_edge 0))
  cases method with
  | regex => exact ⟨0, hPhrase 0⟩
  | whole =>
      cases shape
      · exact ⟨0, hWord⟩
      · exact ⟨3, hToken⟩
  | exact =>
      cases shape
      · cases remove
        · exact ⟨0, hEdges⟩
        · exact ⟨0, hSpace hEdges⟩
      · exact ⟨3, reads_between (hPhrase 2)⟩
  | within =>
      cases shape <;> cases remove
      · exact ⟨0, hPhrase 0⟩
      · exact ⟨0, hSpace hWord⟩
      · have hNothing (g : Nat) : ReadsBranches .empty g g := (Reads.nil g).branches
        exact ⟨3, .cons (.capture (hNothing 1))
          (.cons (.capture (hPhrase 2).branches) (.capture (hNothing 3)))⟩
      · exact ⟨3, hToken⟩

/-- The parts of a phrase are characters and sets of them, repeated at most once. -/
theorem nesting_of_mem_phrase : ∀ p ∈ phrase repeated separators l, nesting .nothing p ≤ 3 := by
  have hLetter (c : Char) : nesting .nothing (letter repeated c) ≤ 3 := by
    cases repeated <;> simp [letter, nesting]
  induction l using phrase.induct with
  | case1 => simp [phrase]
  | case2 c => simpa [phrase] using hLetter c
  | case3 c rest hRest ih =>
      rw [phrase.eq_3 _ _ _ _ hRest]
      intro p hp
      rcases List.mem_cons.mp hp with rfl | hp
      · exact hLetter c
      · rcases List.mem_append.mp hp with hp | hp
        · cases separators
          · simp at hp
          · obtain rfl := List.mem_singleton.mp hp
            decide
        · exact ih p hp

/-- Five levels are enough for a phrase between boundaries, which is far from the limit. -/
theorem nesting_of_mem_between {content : List Pattern}
    (hContent : ∀ p ∈ content, nesting .nothing p ≤ 3) :
    ∀ p ∈ between content, nesting .nothing p ≤ 5 := by
  intro p hp
  simp only [between, List.mem_cons, List.not_mem_nil, or_false] at hp
  rcases hp with rfl | rfl | rfl
  · decide
  · exact Nat.succ_le_succ (nesting_concat_le hContent)
  · decide

/-- Around the phrase there is at most a group. -/
theorem nesting_of_mem_ofPhrase (method : MatchMethod) (shape : Shape) (remove : Bool)
    {phrase : List Pattern} (hPhrase : ∀ p ∈ phrase, nesting .nothing p ≤ 3) :
    ∀ p ∈ ofPhrase method shape remove phrase, nesting .nothing p ≤ 5 := by
  have hRuns : nesting .nothing edge ≤ 3 ∧ nesting .nothing wordRun ≤ 3 ∧
      nesting .nothing tokenRun ≤ 3 ∧ nesting .nothing optionalSpace ≤ 3 := by decide
  obtain ⟨hEdge, hWord, hToken, hSpace⟩ := hRuns
  have hFlat {ps : List Pattern} (hParts : ∀ p ∈ ps, nesting .nothing p ≤ 3) :
      ∀ p ∈ ps, nesting .nothing p ≤ 5 :=
    fun p hp => Nat.le_trans (hParts p hp) (by decide)
  have hWholeToken : ∀ p ∈ wholeToken phrase, nesting .nothing p ≤ 5 :=
    nesting_of_mem_between (by simpa [or_imp, forall_and, hToken] using hPhrase)
  cases method with
  | regex => exact hFlat hPhrase
  | whole =>
      cases shape
      · exact hFlat (by simpa [ofPhrase, wholeWord, or_imp, forall_and, hEdge, hWord] using hPhrase)
      · exact hWholeToken
  | exact =>
      cases shape
      · cases remove <;>
          exact hFlat (by
            simpa [ofPhrase, withSpace, or_imp, forall_and, hEdge, hSpace] using hPhrase)
      · exact nesting_of_mem_between hPhrase
  | within =>
      cases shape <;> cases remove
      · exact hFlat hPhrase
      · exact hFlat (by
          simpa [ofPhrase, withSpace, wholeWord, or_imp, forall_and, hEdge, hWord, hSpace]
            using hPhrase)
      · intro p hp
        simp only [ofPhrase, Bool.false_eq_true, if_false, List.mem_cons, List.not_mem_nil,
          or_false] at hp
        rcases hp with rfl | rfl | rfl
        · decide
        · exact Nat.succ_le_succ (nesting_concat_le hPhrase)
        · decide
      · exact hWholeToken

end Pattern

namespace TermOptions

/-- The text of a built pattern is read as this pattern. -/
theorem parse_builtPattern (o : TermOptions) (s : Settings) :
    Pattern.parse (o.builtPattern s).source = .ok (o.builtPattern s) := by
  obtain ⟨g, reads⟩ := Pattern.reads_ofPhrase (o.methodIn s) (o.shapeIn s)
    (s.filterMethod = .remove) (Pattern.reads_phrase (o.repeatedIn s) (o.separatorsIn s)
      o.text.toList)
  refine reads.parse_source fun p hp => ?_
  have := Pattern.nesting_of_mem_ofPhrase _ _ _ Pattern.nesting_of_mem_phrase p hp
  rw [Pattern.maxNesting]
  omega

/-- What a term is compiled to is what its pattern's text is compiled to. -/
theorem ofText_sourceIn (o : TermOptions) (s : Settings) :
    Regex.ofText (o.sourceIn s) = o.regexIn s := by
  rw [sourceIn, regexIn]
  split
  · rfl
  · rw [Regex.ofText, parse_builtPattern]
    rfl

end TermOptions

end Expurgate
