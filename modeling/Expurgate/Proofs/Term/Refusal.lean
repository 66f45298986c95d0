import Expurgate.Proofs.Term.Reading

/-! Which terms are refused. A pattern that is built for a term is never at fault: only an empty
text, a pattern of the user's own that is too long or cannot be read, and the size of what a pattern
is compiled to can stand in the way of a term. -/
namespace Expurgate

namespace Pattern

def groups : Pattern → List Nat
  | group (.capture index _) body => index :: body.groups
  | group (.plain _) body | repetition _ _ _ body => body.groups
  | alternate a b | seq a b => a.groups ++ b.groups
  | _ => []

theorem groups_concat (ps : List Pattern) : (concat ps).groups = ps.flatMap groups := by
  induction ps with
  | nil => rfl
  | cons p rest ih =>
      cases rest with
      | nil => simp [concat]
      | cons q rest =>
          have hSeq : concat (p :: q :: rest) = seq p (concat (q :: rest)) := rfl
          rw [hSeq, groups, ih, ← List.flatMap_cons]

/-- The characters of a term are in no group. -/
theorem groups_phrase (repeated separators : Bool) (l : List Char) :
    (phrase repeated separators l).flatMap groups = [] := by
  have hLetter (c : Char) : (letter repeated c).groups = [] := by cases repeated <;> rfl
  induction l using phrase.induct with
  | case1 => rfl
  | case2 c => simpa [phrase] using hLetter c
  | case3 c rest hRest ih =>
      rw [phrase.eq_3 _ _ _ _ hRest, List.flatMap_cons, List.flatMap_append, hLetter, ih]
      cases separators <;> rfl

end Pattern

/-- The groups that matches are divided by. -/
def Shape.groups : Shape → List Nat
  | plain => []
  | bounded => [1, 2, 3]

/-- The groups of an expression are those of its shape, as a phrase has none of its own. -/
theorem Pattern.groups_ofPhrase {method : MatchMethod} (hMethod : method ≠ .regex) (shape : Shape)
    (remove : Bool) {phrase : List Pattern} (hPhrase : phrase.flatMap groups = []) :
    (concat (ofPhrase method shape remove phrase)).groups = shape.groups := by
  have hBetween {content : List Pattern} (hContent : content.flatMap groups = []) :
      (between content).flatMap groups = [1, 2, 3] := by
    simp [between, groups, groups_concat, hContent, boundaryRun, boundary]
  rw [groups_concat]
  cases method with
  | regex => exact absurd rfl hMethod
  | exact =>
      cases shape with
      | bounded => exact hBetween hPhrase
      | plain =>
          cases remove <;> simp [ofPhrase, withSpace, hPhrase, groups, edge, optionalSpace,
            Shape.groups]
  | whole =>
      cases shape with
      | bounded =>
          apply hBetween
          simp [hPhrase, tokenRun, boundary, groups]
      | plain => simp [ofPhrase, wholeWord, hPhrase, groups, edge, wordRun, Shape.groups]
  | within =>
      cases shape <;> cases remove
      · simpa [ofPhrase, Shape.groups] using hPhrase
      · simp [ofPhrase, withSpace, wholeWord, hPhrase, groups, edge, wordRun, optionalSpace,
          Shape.groups]
      · simp [ofPhrase, groups, groups_concat, hPhrase, Shape.groups]
      · apply hBetween
        simp [hPhrase, tokenRun, boundary, groups]

namespace TermOptions

variable {o : TermOptions} {s : Settings}

/-- The text of a built pattern can be read, whatever characters the term has, and it has the groups
and the meaning that it was built for. -/
theorem parse_sourceIn (hMethod : o.methodIn s ≠ .regex) :
    ∃ p, Pattern.parse (o.sourceIn s) = .ok p ∧ p.Means (o.expression s) ∧
      p.groups = (o.shapeIn s).groups := by
  refine ⟨o.builtPattern s, ?_, ?_, ?_⟩
  · rw [sourceIn, if_neg hMethod]
    exact parse_builtPattern o s
  · exact .concat (Pattern.means_ofPhrase _ _ _ (Pattern.means_phrase _ _ _))
  · exact Pattern.groups_ofPhrase hMethod _ _ (Pattern.groups_phrase _ _ _)

/-- An expression is accepted if the text of the user is, or if what is written for a word is small
enough. -/
theorem exists_regexIn_iff : (∃ r, o.regexIn s = .ok r) ↔
    if o.methodIn s = .regex then ∃ r, Regex.ofText o.text = .ok r
    else (o.expression s).cost ≤ Regex.maxCost := by
  by_cases hMethod : o.methodIn s = .regex
  · rw [regexIn, if_pos hMethod, if_pos hMethod]
  · rw [regexIn_eq hMethod, if_neg hMethod]
    split <;> simp_all

/-- The two ways to fail. A text of the user fails with the error of its reading, and a word only by
its size. -/
theorem regexIn_eq_error_iff {cause : PatternError} : o.regexIn s = .error cause ↔
    if o.methodIn s = .regex then Regex.ofText o.text = .error cause
    else cause = .tooLarge ∧ Regex.maxCost < (o.expression s).cost := by
  by_cases hMethod : o.methodIn s = .regex
  · rw [regexIn, if_pos hMethod, if_pos hMethod]
  · rw [regexIn_eq hMethod, if_neg hMethod]
    split
    · rename_i hCost
      simp [Nat.not_lt.mpr hCost]
    · rename_i hCost
      simp [Nat.not_le.mp hCost, eq_comm]

end TermOptions

namespace Term

/-- A term has a pattern of the user's own that is too long. -/
def TooLong (o : TermOptions) (s : Settings) : Prop :=
  o.methodIn s = .regex ∧ maxPatternLength < o.text.utf8ByteSize

variable {o : TermOptions} {s : Settings}

/-- The ways in which preparing a term may end. -/
theorem compile_cases (o : TermOptions) (s : Settings) :
    (o.text = "" ∧ compile o s = .error .emptyTerm) ∨
      o.text ≠ "" ∧
        ((TooLong o s ∧
            compile o s = .error (.patternLengthExceeded o.text o.text.utf8ByteSize)) ∨
          ¬TooLong o s ∧
            ((∃ cause, o.regexIn s = .error cause ∧
                compile o s = .error (.termCompilation o.text cause)) ∨
              ∃ r t, o.regexIn s = .ok r ∧ compile o s = .ok t)) := by
  by_cases hText : o.text = ""
  · exact .inl ⟨hText, by rw [compile, if_pos hText]⟩
  · refine .inr ⟨hText, ?_⟩
    by_cases hLong : TooLong o s
    · exact .inl ⟨hLong, by rw [compile, if_neg hText]; exact if_pos hLong⟩
    · refine .inr ⟨hLong, ?_⟩
      rw [compile, if_neg hText, if_neg (show ¬(_ ∧ _) from hLong)]
      cases o.regexIn s with
      | error cause => exact .inl ⟨cause, rfl, rfl⟩
      | ok r => exact .inr ⟨r, _, rfl, rfl⟩

/-- An empty text is refused first, before any other check. -/
theorem compile_eq_emptyTerm_iff : compile o s = .error .emptyTerm ↔ o.text = "" := by
  rcases compile_cases o s with ⟨hText, hDone⟩ |
    ⟨hText, ⟨-, hDone⟩ | ⟨-, ⟨cause, -, hDone⟩ | ⟨r, t, -, hDone⟩⟩⟩ <;> simp [hText, hDone]

/-- The length is checked next, and in bytes. The error tells the term and its length. -/
theorem compile_eq_patternLengthExceeded_iff {term : String} {bytes : Nat} :
    compile o s = .error (.patternLengthExceeded term bytes) ↔
      TooLong o s ∧ term = o.text ∧ bytes = o.text.utf8ByteSize := by
  rcases compile_cases o s with ⟨hText, hDone⟩ |
    ⟨-, ⟨hLong, hDone⟩ | ⟨hLong, ⟨cause, -, hDone⟩ | ⟨r, t, -, hDone⟩⟩⟩
  · simp [hDone, TooLong, hText]
  · simp [hDone, hLong, eq_comm]
  all_goals simp [hDone, hLong]

/-- Everything else that is refused is refused by the compiler of expressions, and its cause is
passed on. -/
theorem compile_eq_termCompilation_iff {term : String} {cause : PatternError} :
    compile o s = .error (.termCompilation term cause) ↔
      o.text ≠ "" ∧ ¬TooLong o s ∧ term = o.text ∧ o.regexIn s = .error cause := by
  rcases compile_cases o s with ⟨hText, hDone⟩ |
    ⟨hText, ⟨hLong, hDone⟩ | ⟨hLong, ⟨cause', hCause, hDone⟩ | ⟨r, t, hRegex, hDone⟩⟩⟩
  · simp [hDone, hText]
  · simp [hDone, hLong]
  · simp [hDone, hText, hLong, hCause, eq_comm]
  · simp [hDone, hRegex]

theorem exists_compile_iff :
    (∃ t, compile o s = .ok t) ↔ o.text ≠ "" ∧ ¬TooLong o s ∧ ∃ r, o.regexIn s = .ok r := by
  rcases compile_cases o s with ⟨hText, hDone⟩ |
    ⟨hText, ⟨hLong, hDone⟩ | ⟨hLong, ⟨cause, hCause, hDone⟩ | ⟨r, t, hRegex, hDone⟩⟩⟩
  · simp [hDone, hText]
  · simp [hDone, hLong]
  · simp [hDone, hCause]
  · simp [hDone, hText, hLong, hRegex]

/-- A term is refused for an empty text, for a pattern of the user's own that is too long or cannot
be compiled, and for nothing else, apart from the size of what a built pattern is compiled to. The
text of a built pattern can always be read, and that of a bounded term has the groups 1 to 3. -/
theorem compile_outcomes (o : TermOptions) (s : Settings) :
    (compile o s = .error .emptyTerm ↔ o.text = "") ∧
      (∀ term bytes, compile o s = .error (.patternLengthExceeded term bytes) ↔
        o.methodIn s = .regex ∧ 500 < o.text.utf8ByteSize ∧ term = o.text ∧
          bytes = o.text.utf8ByteSize) ∧
      (∀ term cause, compile o s = .error (.termCompilation term cause) ↔
        o.text ≠ "" ∧ term = o.text ∧
          if o.methodIn s = .regex then
            o.text.utf8ByteSize ≤ 500 ∧ Regex.ofText o.text = .error cause
          else cause = .tooLarge ∧ Regex.maxCost < (o.expression s).cost) ∧
      ((∃ t, compile o s = .ok t) ↔
        o.text ≠ "" ∧
          if o.methodIn s = .regex then
            o.text.utf8ByteSize ≤ 500 ∧ ∃ r, Regex.ofText o.text = .ok r
          else (o.expression s).cost ≤ Regex.maxCost) ∧
      (o.methodIn s ≠ .regex → ∃ p, Pattern.parse (o.sourceIn s) = .ok p ∧
        p.Means (o.expression s) ∧ p.groups = (o.shapeIn s).groups) := by
  have hLong : TooLong o s ↔ o.methodIn s = .regex ∧ 500 < o.text.utf8ByteSize := Iff.rfl
  refine ⟨compile_eq_emptyTerm_iff, fun term bytes => ?_, fun term cause => ?_, ?_,
    TermOptions.parse_sourceIn⟩
  · rw [compile_eq_patternLengthExceeded_iff, hLong, and_assoc]
  · rw [compile_eq_termCompilation_iff, TermOptions.regexIn_eq_error_iff, hLong]
    by_cases hMethod : o.methodIn s = .regex <;> simp [hMethod, and_left_comm]
  · rw [exists_compile_iff, TermOptions.exists_regexIn_iff, hLong]
    by_cases hMethod : o.methodIn s = .regex <;> simp [hMethod]

end Term

end Expurgate
