import Expurgate.Proofs.Regex.Scan
import Expurgate.Proofs.Regex.Sequence
import Expurgate.Proofs.Term.Expression

/-! Prepared terms. Their program is that of an expression known in advance, and a match of a bounded
term is cut into the boundary in front, the content, and the boundary behind, with nothing between
them. -/
namespace Expurgate

open Unicode

namespace Regex

theorem productive_letter (repeated : Bool) (c : Char) : (letter repeated c).Productive := by
  cases repeated
  · trivial
  · exact ⟨trivial, rfl⟩

theorem consumes_letter (repeated : Bool) (c : Char) : (letter repeated c).consumes = true := by
  cases repeated <;> rfl

theorem bare_letter (repeated : Bool) (c : Char) : (letter repeated c).Bare := by
  cases repeated <;> trivial

/-- What holds of the letters of a phrase and of runs of separators holds of each of its parts. -/
theorem forall_mem_phrase {P : Regex → Prop} {repeated separators : Bool} {l : List Char}
    (hLetter : ∀ c ∈ l, P (letter repeated c)) (hGap : P separatorRun) :
    ∀ r ∈ phrase repeated separators l, P r := by
  induction l using phrase.induct with
  | case1 => simp [phrase]
  | case2 c => simpa [phrase] using hLetter
  | case3 c rest hRest ih =>
      obtain ⟨hFirst, hOthers⟩ := List.forall_mem_cons.mp hLetter
      intro r hr
      rw [phrase.eq_3 _ _ _ _ hRest] at hr
      rcases List.mem_cons.mp hr with rfl | hr
      · exact hFirst
      · rcases List.mem_append.mp hr with hr | hr
        · cases separators
          · simp [gap] at hr
          · obtain rfl : r = separatorRun := by simpa [gap] using hr
            exact hGap
        · exact ih hOthers r hr

variable {repeated separators : Bool} {l : List Char}

theorem productive_of_mem_phrase {r : Regex} (hr : r ∈ phrase repeated separators l) :
    r.Productive :=
  forall_mem_phrase (fun c _ => productive_letter repeated c) ⟨trivial, rfl⟩ r hr

theorem bare_of_mem_phrase {r : Regex} (hr : r ∈ phrase repeated separators l) : r.Bare :=
  forall_mem_phrase (fun c _ => bare_letter repeated c) trivial r hr

theorem consumes_phrase (hText : l ≠ []) :
    (sequence (phrase repeated separators l)).consumes = true := by
  rw [consumes_sequence, List.any_eq_true]
  cases l with
  | nil => exact absurd rfl hText
  | cons c rest =>
      refine ⟨letter repeated c, ?_, consumes_letter repeated c⟩
      cases rest <;> simp [phrase]

/-- Whatever stands around a phrase, the whole takes a character if the phrase does. -/
theorem consumes_ofPhrase (hText : l ≠ []) (method : MatchMethod) (shape : Shape)
    (remove : Bool) :
    (sequence (ofPhrase method shape remove (phrase repeated separators l))).consumes = true := by
  have hPhrase := @consumes_phrase repeated separators l hText
  have hAny := hPhrase
  rw [consumes_sequence] at hAny
  rw [consumes_sequence]
  cases method <;> cases shape <;> cases remove <;>
    simp [ofPhrase, between, consumes, consumes_sequence, hPhrase, List.any_append, hAny]

/-- What stands around a phrase repeats nothing that could match without taking a character. -/
theorem productive_ofPhrase {body : List Regex} (hBody : ∀ r ∈ body, r.Productive)
    (method : MatchMethod) (shape : Shape) (remove : Bool) :
    (sequence (ofPhrase method shape remove body)).Productive := by
  have hWord : wordRun.Productive := ⟨trivial, rfl⟩
  have hToken : tokenRun.Productive := ⟨trivial, rfl⟩
  have hBoundary : boundaryRun.Productive := ⟨trivial, rfl⟩
  have hSpace : optionalSpace.Productive := trivial
  have hEdge : edge.Productive := trivial
  rw [productive_sequence]
  cases method <;> cases shape <;> cases remove <;>
    simp [ofPhrase, between, Productive, productive_sequence, or_imp, forall_and, hWord, hToken,
      hBoundary, hSpace, hEdge]
  all_goals exact hBody

theorem cost_nil : (sequence []).cost = 0 := rfl

theorem cost_cons (r : Regex) (l : List Regex) :
    (sequence (r :: l)).cost = r.cost + (sequence l).cost := by
  cases l <;> simp [sequence, cost]

theorem cost_sequence_append (l l' : List Regex) :
    (sequence (l ++ l')).cost = (sequence l).cost + (sequence l').cost := by
  induction l with
  | nil => simp [sequence, cost]
  | cons r l ih => rw [List.cons_append, cost_cons, cost_cons, ih, Nat.add_assoc]

/-- The cost of a letter has a bound, as there are only so many letters that fold alike. -/
theorem cost_letter_le (repeated : Bool) (c : Char) : (letter repeated c).cost ≤ 15436 := by
  have := cost_set_le (CharSet.length_letter_le c)
  cases repeated <;> simp only [letter, cost, if_true, Bool.false_eq_true, if_false] at * <;> omega

theorem cost_gap_le (separators : Bool) :
    (sequence (gap separators)).cost ≤ if separators then 46108 else 0 := by
  have := cost_set_le CharSet.length_separator_le
  cases separators <;> simp [gap, separatorRun, star, sequence, cost] at *
  omega

/-- Each character of a phrase adds its set to the cost, and with separators a gap. -/
theorem cost_phrase_le (repeated separators : Bool) (l : List Char) :
    (sequence (phrase repeated separators l)).cost ≤
      (if separators then 61544 else 15436) * l.length := by
  induction l using phrase.induct with
  | case1 => simp [phrase, sequence, cost]
  | case2 c =>
      have := cost_letter_le repeated c
      simp only [phrase, sequence, List.length_cons, List.length_nil]
      split <;> omega
  | case3 c rest hRest ih =>
      have hLetter := cost_letter_le repeated c
      have hGap := cost_gap_le separators
      rw [phrase.eq_3 _ _ _ _ hRest, cost_cons, cost_sequence_append, List.length_cons]
      cases separators <;> simp only [if_true, Bool.false_eq_true, if_false] at * <;> omega

/-- Besides the phrase there is little in an expression. -/
theorem cost_ofPhrase_le (body : List Regex) (method : MatchMethod) (shape : Shape)
    (remove : Bool) :
    (sequence (ofPhrase method shape remove body)).cost ≤ (sequence body).cost + 1000000 := by
  have hBoundary : boundaryRun.cost ≤ 240208 := by
    have := cost_set_le CharSet.small_boundary
    rw [boundaryRun, cost]
    omega
  have hToken : tokenRun.cost ≤ 240208 := by
    have := cost_set_le CharSet.small_complement_boundary
    rw [tokenRun, star, cost, cost]
    omega
  have hWord : wordRun.cost ≤ 240208 := by
    have := cost_set_le CharSet.small_wordOrHyphen
    rw [wordRun, star, cost, cost]
    omega
  have hSpace : optionalSpace.cost ≤ 240208 := by
    have := cost_set_le CharSet.small_space
    rw [optionalSpace, cost]
    omega
  have hEdge : edge.cost = 32 := rfl
  -- The sets are left out of sight of the arithmetic, which would compare them.
  revert hBoundary hToken hWord hSpace hEdge
  cases method <;> cases shape <;> cases remove <;>
    simp only [ofPhrase, between, cost_nil, cost_cons, cost_sequence_append, cost, if_true,
      Bool.false_eq_true, if_false] <;>
    generalize boundaryRun.cost = b, tokenRun.cost = k, wordRun.cost = w, optionalSpace.cost = o,
      edge.cost = e <;> omega

/-- A bounded term has three groups whatever its method. -/
theorem grouped_of_bounded {body : List Regex} (hBody : ∀ r ∈ body, r.Bare)
    {method : MatchMethod} (hMethod : method ≠ .regex) (remove : Bool) :
    ∃ a b c, sequence (ofPhrase method .bounded remove body) = grouped a b c ∧
      a.Bare ∧ b.Bare ∧ c.Bare := by
  have hBetween (content : List Regex) (hContent : ∀ r ∈ content, r.Bare) :
      ∃ a b c, sequence (between content) = grouped a b c ∧ a.Bare ∧ b.Bare ∧ c.Bare :=
    ⟨_, _, _, rfl, ⟨trivial, trivial⟩, (bare_sequence _).mpr hContent, ⟨trivial, trivial⟩⟩
  have hToken : ∀ r ∈ tokenRun :: (body ++ [tokenRun]), r.Bare := by
    have hRun : tokenRun.Bare := trivial
    simpa [or_imp, forall_and, hRun] using hBody
  cases method with
  | regex => exact absurd rfl hMethod
  | exact => exact hBetween _ hBody
  | whole => exact hBetween _ hToken
  | within =>
      cases remove
      · exact ⟨_, _, _, rfl, trivial, (bare_sequence _).mpr hBody, trivial⟩
      · exact hBetween _ hToken

end Regex

namespace TermOptions

def expression (o : TermOptions) (s : Settings) : Regex :=
  .sequence (Regex.ofPhrase (o.methodIn s) (o.shapeIn s) (s.filterMethod = .remove)
    (Regex.phrase (o.repeatedIn s) (o.separatorsIn s) o.text.toList))

theorem productive_expression (o : TermOptions) (s : Settings) : (o.expression s).Productive :=
  Regex.productive_ofPhrase (fun _ => Regex.productive_of_mem_phrase) _ _ _

/-- Without text of the user's in it, an expression fails in one way only: by being too large. -/
theorem regexIn_eq {o : TermOptions} {s : Settings} (hMethod : o.methodIn s ≠ .regex) :
    o.regexIn s = if (o.expression s).cost ≤ Regex.maxCost then .ok (o.expression s)
      else .error .tooLarge := by
  rw [regexIn, if_neg hMethod]
  exact (Pattern.Means.concat (Pattern.means_ofPhrase _ _ _ (Pattern.means_phrase _ _ _))).regex

/-- The expression of a short text is never too large. -/
theorem cost_expression_le {o : TermOptions} (s : Settings) (hShort : o.text.length ≤ 150) :
    (o.expression s).cost ≤ Regex.maxCost := by
  have hPhrase : (Regex.sequence (Regex.phrase (o.repeatedIn s) (o.separatorsIn s)
      o.text.toList)).cost ≤ (if o.separatorsIn s then 61544 else 15436) * o.text.length :=
    Regex.cost_phrase_le _ _ _
  have := Regex.cost_ofPhrase_le (Regex.phrase (o.repeatedIn s) (o.separatorsIn s) o.text.toList)
    (o.methodIn s) (o.shapeIn s) (s.filterMethod = .remove)
  have hMax : Regex.maxCost = 10485760 := rfl
  rw [expression]
  split at hPhrase <;> omega

end TermOptions

namespace Term

variable {o : TermOptions} {s : Settings} {t : Term} {h : Array Char}

/-- What a prepared term has from its options. -/
structure Prepared (o : TermOptions) (s : Settings) (t : Term) : Prop where
  text_ne : o.text ≠ ""
  text : t.text = o.text
  method : t.method = o.methodIn s
  repeated : t.repeated = o.repeatedIn s
  separators : t.separators = o.separatorsIn s
  shape : t.shape = o.shapeIn s
  program : ∃ r, o.regexIn s = .ok r ∧ t.program = r.program

theorem Prepared.toList_ne_nil (ht : Prepared o s t) : o.text.toList ≠ [] := by
  simpa using ht.text_ne

/-- A prepared term is made of its options, the settings and the expression that finds it. -/
theorem eq_of_compile (hCompile : compile o s = .ok t) :
    o.text ≠ "" ∧ ∃ r, o.regexIn s = .ok r ∧
      t = ⟨o.text, o.methodIn s, o.repeatedIn s, o.separatorsIn s, o.substitutions,
        o.preserveCase.getD s.preserveCase, hasNonLatin o.text.toList, o.shapeIn s, o.sourceIn s,
        r.program⟩ := by
  rw [compile] at hCompile
  split at hCompile
  · cases hCompile
  · rename_i hText
    split at hCompile
    · cases hCompile
    · split at hCompile
      · cases hCompile
      · rename_i r hRegex
        exact ⟨hText, r, hRegex, (Except.ok.inj hCompile).symm⟩

/-- What is known of a term is known from how it was compiled. The later results ask for this and
not for the compilation itself. -/
theorem prepared_of_compile (hCompile : compile o s = .ok t) : Prepared o s t := by
  obtain ⟨hText, r, hRegex, rfl⟩ := eq_of_compile hCompile
  exact ⟨hText, rfl, rfl, rfl, rfl, rfl, r, hRegex, rfl⟩

theorem substitutions_of_compile (hCompile : compile o s = .ok t) :
    t.substitutions = o.substitutions := by
  obtain ⟨-, r, -, rfl⟩ := eq_of_compile hCompile
  rfl

/-- A term with a short text of its own can always be prepared. -/
theorem exists_compile (hText : o.text ≠ "") (hMethod : o.methodIn s ≠ .regex)
    (hShort : o.text.length ≤ 150) : ∃ t, compile o s = .ok t := by
  have hRegex : o.regexIn s = .ok (o.expression s) := by
    rw [TermOptions.regexIn_eq hMethod, if_pos (TermOptions.cost_expression_le s hShort)]
  simp [compile, hText, hMethod, hRegex]

namespace Prepared

theorem program_eq (ht : Prepared o s t) (hMethod : o.methodIn s ≠ .regex) :
    t.program = (o.expression s).program := by
  obtain ⟨r, hRegex, hProgram⟩ := ht.program
  rw [TermOptions.regexIn_eq hMethod] at hRegex
  split at hRegex
  · rw [hProgram, Except.ok.inj hRegex]
  · cases hRegex

theorem method_ne_of_bounded (ht : Prepared o s t) (hShape : t.shape = .bounded) :
    o.methodIn s ≠ .regex := by
  intro hMethod
  rw [ht.shape, TermOptions.shapeIn, if_pos hMethod] at hShape
  cases hShape

end Prepared

/-- A plain match has one part, and so no marks are read. -/
theorem split_plain (hShape : t.shape = .plain) (c : Captures) :
    t.split c = some (.plain ⟨c.start, c.stop⟩) := by
  simp [split, hShape]

/-- A bounded match has three parts, as its groups mark them. -/
theorem split_bounded (hShape : t.shape = .bounded) {c : Captures} {i j : Nat}
    (hMarks : c.marks = Regex.groupMarks c.start i j c.stop) : t.split c =
      some (.bounded ⟨c.start, c.stop⟩ ⟨c.start, i⟩ ⟨i, j⟩ ⟨j, c.stop⟩) := by
  simp [split, hShape, hMarks, Regex.groupMarks, Captures.group?, Captures.slot?]

/-- The parts of a match follow one another without a gap. -/
inductive Tiles (p q : Nat) : MatchParts → Prop where
  | plain (hLe : p ≤ q) : Tiles p q (.plain ⟨p, q⟩)
  | bounded {i j : Nat} (hLeading : p ≤ i) (hContent : i ≤ j) (hTrailing : j ≤ q) :
      Tiles p q (.bounded ⟨p, q⟩ ⟨p, i⟩ ⟨i, j⟩ ⟨j, q⟩)

/-- Every match of a prepared term can be divided into such parts. -/
theorem Prepared.tiles_of_mem_occurrences (ht : Prepared o s t) {c : Captures}
    (hMem : c ∈ t.occurrences h) (hLe : c.start ≤ c.stop) :
    ∃ m, t.split c = some m ∧ Tiles c.start c.stop m := by
  cases hShape : t.shape with
  | plain => exact ⟨_, split_plain hShape c, .plain hLe⟩
  | bounded =>
      have hMethod := ht.method_ne_of_bounded hShape
      obtain ⟨a, b, d, hGrouped, ha, hb, hd⟩ := Regex.grouped_of_bounded
        (fun _ => Regex.bare_of_mem_phrase (l := o.text.toList)) hMethod
        (decide (s.filterMethod = .remove))
      rw [occurrences, ht.program_eq hMethod] at hMem
      obtain ⟨-, way⟩ := Regex.prefers_of_mem_findAll (o.productive_expression s) hMem
      rw [TermOptions.expression, ← ht.shape, hShape, hGrouped] at way
      obtain ⟨i, j, first, second, third, hMarks⟩ := Regex.prefers_grouped ha hb hd way
      exact ⟨_, split_bounded hShape hMarks,
        .bounded first.matches.1.le second.matches.1.le third.matches.1.le⟩

end Term

end Expurgate
