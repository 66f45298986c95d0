import Expurgate.Proofs.Regex.CharSet
import Expurgate.Proofs.Regex.Matching
import Expurgate.Term.Token
import Mathlib.Data.List.Forall2

/-! The regular expressions that terms are compiled to. The pattern built for a term's text means an
expression that can be written down in advance, unless the pattern is refused for its size. -/
namespace Expurgate

open Unicode

/-- White space or one of the marks that may surround a bounded term. -/
def isBoundary (c : Char) : Bool :=
  isSpace c || ['.', ',', '\'', '"', '+', '!', '?', '|', '-'].contains c

/-- The characters that may stand between those of a term with separators. -/
def isSeparator (c : Char) : Bool := [' ', '_', '-'].contains c

theorem isSeparator_iff {c : Char} : isSeparator c = true ↔ c = ' ' ∨ c = '_' ∨ c = '-' := by
  simp [isSeparator]

namespace CharSet

def boundary : CharSet :=
  (['.', ',', '\'', '"', '+', '!', '?', '|', '-'].map letter).foldl union space

def separator : CharSet := (['_', '-'].map letter).foldl union (letter ' ')

def wordOrHyphen : CharSet := word.union (letter '-')

private theorem normal_of_mem_map_letter {l : List Char} {s : CharSet} (hs : s ∈ l.map letter) :
    s.Normal := by
  obtain ⟨c, -, rfl⟩ := List.mem_map.mp hs
  exact normal_letter c

private theorem any_letter {l : List Char} (hMarks : l ⊆ patternMarks) (d : Char) :
    ((l.map letter).any fun s => s.contains d) = l.contains d := by
  rw [Bool.eq_iff_iff, List.any_map, List.any_eq_true, List.contains_iff_mem]
  constructor
  · rintro ⟨c, hc, hFold⟩
    rw [Function.comp_apply, contains_letter] at hFold
    rwa [(sameFold_patternMark (hMarks hc)).mp hFold]
  · intro hd
    exact ⟨d, hd, by rw [Function.comp_apply, contains_letter, sameFold_refl]⟩

theorem normal_boundary : boundary.Normal := normal_foldl_union _ normal_space

/-- The class that is written for boundaries holds the characters that are one. It is a union of
white space and of single marks. -/
theorem contains_boundary (c : Char) : boundary.contains c = isBoundary c := by
  rw [boundary, contains_foldl_union _ normal_space fun _ => normal_of_mem_map_letter,
    any_letter (by decide)]
  rfl

theorem contains_separator (c : Char) : separator.contains c = isSeparator c := by
  rw [separator, contains_foldl_union _ (normal_letter ' ') fun _ => normal_of_mem_map_letter,
    any_letter (by decide), contains_letter, Bool.eq_iff_iff, Bool.or_eq_true,
    sameFold_patternMark (by decide)]
  simp [isSeparator_iff]

theorem contains_wordOrHyphen (c : Char) :
    wordOrHyphen.contains c = (isWord c || c == '-') := by
  rw [wordOrHyphen, contains_union normal_word (normal_letter '-'), contains_letter,
    Bool.eq_iff_iff, Bool.or_eq_true, Bool.or_eq_true, sameFold_patternMark (by decide), beq_iff_eq]
  rfl

end CharSet

namespace Regex

def boundaryRun : Regex := .loop true (.set .boundary)

def tokenRun : Regex := .star true (.set CharSet.boundary.complement)

def wordRun : Regex := .star true (.set .wordOrHyphen)

def separatorRun : Regex := .star true (.set .separator)

def optionalSpace : Regex := .option true (.set .space)

def edge : Regex := .look .wordEdge false

/-- A character of a term in any of its cases, which may be repeated. -/
def letter (repeated : Bool) (c : Char) : Regex :=
  if repeated then .loop true (.set (.letter c)) else .set (.letter c)

def gap (separators : Bool) : List Regex := if separators then [separatorRun] else []

def phrase (repeated separators : Bool) : List Char → List Regex
  | [] => []
  | [c] => [letter repeated c]
  | c :: rest => letter repeated c :: (gap separators ++ phrase repeated separators rest)

/-- Content between boundaries, in groups 1 to 3. -/
def between (content : List Regex) : List Regex :=
  [.capture 1 (.alt (.look .start false) boundaryRun), .capture 2 (sequence content),
    .capture 3 (.alt boundaryRun (.look .stop false))]

/-- The expression of a phrase, part by part. -/
def ofPhrase (method : MatchMethod) (shape : Shape) (remove : Bool) (phrase : List Regex) :
    List Regex :=
  let withSpace (l : List Regex) := if remove then optionalSpace :: (l ++ [optionalSpace]) else l
  let wholeToken := between (tokenRun :: (phrase ++ [tokenRun]))
  let wholeWord := edge :: wordRun :: (phrase ++ [wordRun, edge])
  match method, shape with
  | .exact, .bounded => between phrase
  | .exact, .plain => withSpace (edge :: (phrase ++ [edge]))
  | .within, .bounded =>
    if remove then wholeToken
    else [.capture 1 .empty, .capture 2 (sequence phrase), .capture 3 .empty]
  | .within, .plain => if remove then withSpace wholeWord else phrase
  | .whole, .bounded => wholeToken
  | .whole, .plain => wholeWord
  | .regex, _ => phrase

end Regex

/-- The set takes no more ranges than a matcher has room for. -/
def CharSet.Small (s : CharSet) : Prop := s.ranges.length ≤ 4000

namespace CharSet

theorem small_letter (c : Char) : (letter c).Small := by
  have := length_letter_le c
  rw [Small]
  omega

private theorem length_marks_le {l : List Char} :
    ∀ t ∈ l.map letter, t.ranges.length ≤ 255 := by
  intro t ht
  obtain ⟨c, -, rfl⟩ := List.mem_map.mp ht
  exact length_letter_le c

theorem length_boundary_le : boundary.ranges.length ≤ 2305 :=
  length_foldl_union_le _ length_marks_le

/-- The classes of the expressions have few ranges, and with them the cost of a class is bounded by
a number. The bounds are wide, because only their size against the limit counts. -/
theorem small_boundary : boundary.Small := by
  have := length_boundary_le
  rw [Small]
  omega

theorem small_complement_boundary : boundary.complement.Small := by
  have := length_boundary_le
  have : boundary.complement.ranges.length ≤ boundary.ranges.length + 1 :=
    Ranges.length_complementFrom_le 0 _
  rw [Small]
  omega

theorem length_separator_le : separator.ranges.length ≤ 765 := by
  have : separator.ranges.length ≤ (letter ' ').ranges.length + 255 * 2 :=
    length_foldl_union_le _ length_marks_le
  have := length_letter_le ' '
  omega

theorem small_separator : separator.Small := by
  have := length_separator_le
  rw [Small]
  omega

theorem small_wordOrHyphen : wordOrHyphen.Small := by
  have : wordOrHyphen.ranges.length ≤ word.ranges.length + (letter '-').ranges.length :=
    length_union_le _ _
  have := length_letter_le '-'
  have hWord : word.ranges.length = 796 := by decide +kernel
  rw [Small]
  omega

theorem small_space : space.Small := by
  have hSpace : space.ranges.length = 10 := rfl
  rw [Small, hSpace]
  omega

end CharSet

theorem Regex.cost_set_le {s : CharSet} {n : Nat} (hLength : s.ranges.length ≤ n) :
    (Regex.set s).cost ≤ 64 + 60 * n := by
  rw [cost]
  split <;> omega

namespace Pattern

/-- The pattern stands for the expression and leaves the flags as they are. -/
def Means (p : Pattern) (r : Regex) : Prop := p.meaning .caseless = .ok (r, .caseless)

variable {p q : Pattern} {r s : Regex}

theorem means_literal (c : Char) : Means (.literal (.quoted c)) (.set (.letter c)) := by
  simp only [Means, meaning, Flags.caseless, Bool.not_true, Bool.false_and, Bool.false_eq_true,
    if_false]
  rfl

theorem means_anchor (a : Anchor) : Means (.anchor a) (.look (a.look .caseless) false) := rfl

theorem means_bracket {set : ClassSet} {t : CharSet} (negated : Bool)
    (hSet : set.meaning .caseless = .ok t) :
    Means (.bracket negated set) (.set (if negated then t.complement else t)) := by
  rw [Means, meaning, hSet]
  cases negated <;> rfl

/-- At most one obligatory round of a small set is never too large. -/
theorem Means.repetition {t : CharSet} (hp : Means p (.set t)) (ht : t.Small) {min : Nat}
    {max : Option Nat} (hRounds : Nat.max min (max.getD 1) ≤ 1) :
    Means (.repetition min max true p) ((Regex.set t).repetition min max true) := by
  have hCost := Regex.cost_set_le ht
  have hFits : (Regex.set t).cost * Nat.max min (max.getD 1) ≤ Regex.maxCost := by
    refine Nat.le_trans (Nat.mul_le_mul hCost hRounds) (by decide)
  rw [Means, meaning, hp]
  simp only [bind, Except.bind, decide_eq_true hFits, Bool.true_or, if_true]
  rfl

theorem Means.capture (hp : Means p r) (i : Nat) (name : Option String) :
    Means (.group (.capture i name) p) (.capture i r) := by
  change (p.meaning .caseless).bind _ = _
  rw [hp]
  rfl

theorem Means.alternate (hp : Means p r) (hq : Means q s) : Means (.alternate p q) (.alt r s) := by
  change (p.meaning .caseless).bind _ = _
  rw [hp]
  change (q.meaning .caseless).bind _ = _
  rw [hq]
  rfl

theorem Means.seq (hp : Means p r) (hq : Means q s) : Means (.seq p q) (.seq r s) := by
  change (p.meaning .caseless).bind _ = _
  rw [hp]
  change (q.meaning .caseless).bind _ = _
  rw [hq]
  rfl

/-- A sequence means the sequence of what its parts mean. By this and the lemmas before it the
meaning of an expression follows its source. -/
theorem Means.concat {ps : List Pattern} {rs : List Regex} (each : List.Forall₂ Means ps rs) :
    Means (concat ps) (Regex.sequence rs) := by
  induction each with
  | nil => rfl
  | cons first rest ih =>
      cases rest with
      | nil => exact first
      | cons second rest => exact .seq first ih

/-- Items that are added to a class one by one make the union of what they mean. -/
private theorem meaning_foldl_add (f : Flags) (items : List ClassSet) (sets : List CharSet)
    (hItems : List.Forall₂ (fun i t => i.meaning f = .ok t) items sets) {first : ClassSet}
    {s : CharSet} (hNonempty : first ≠ .empty) (hFirst : first.meaning f = .ok s) :
    (items.foldl ClassSet.add first).meaning f = .ok (sets.foldl CharSet.union s) := by
  induction hItems generalizing first s with
  | nil => exact hFirst
  | @cons i t items sets hItem _ ih =>
      have hAdd : first.add i = .union first i := by
        cases first <;> first | rfl | exact absurd rfl hNonempty
      refine ih (by simp [hAdd]) ?_
      rw [hAdd, ClassSet.meaning, hFirst, hItem]
      rfl

theorem means_boundary (negated : Bool) :
    Means (boundary negated)
      (.set (if negated then CharSet.boundary.complement else CharSet.boundary)) := by
  refine means_bracket negated
    (@meaning_foldl_add .caseless _ _ ?_ (.short .space false) _ nofun rfl)
  repeat' constructor

theorem means_boundaryRun : Means boundaryRun Regex.boundaryRun :=
  (means_boundary false).repetition CharSet.small_boundary (Nat.le_refl 1)

theorem means_tokenRun : Means tokenRun Regex.tokenRun :=
  (means_boundary true).repetition CharSet.small_complement_boundary (Nat.le_refl 1)

theorem means_wordRun : Means wordRun Regex.wordRun := by
  refine Means.repetition (t := .wordOrHyphen) (means_bracket false ?_) CharSet.small_wordOrHyphen
    (Nat.le_refl 1)
  exact @meaning_foldl_add .caseless [verbatim '-'] [.letter '-'] (.cons rfl .nil)
    (.short .word false) _ nofun rfl

theorem means_separatorRun : Means separatorRun Regex.separatorRun := by
  refine Means.repetition (t := .separator) (means_bracket false ?_) CharSet.small_separator
    (Nat.le_refl 1)
  refine @meaning_foldl_add .caseless [verbatim '_', .literal (.quoted '-')] _ ?_ (verbatim ' ') _
    nofun rfl
  repeat' constructor

theorem means_optionalSpace : Means optionalSpace Regex.optionalSpace :=
  Means.repetition (p := .short .space false) (t := .space) rfl CharSet.small_space (Nat.le_refl 1)

theorem means_edge : Means edge Regex.edge := means_anchor .wordEdge

theorem means_letter (repeated : Bool) (c : Char) :
    Means (letter repeated c) (Regex.letter repeated c) := by
  cases repeated
  · exact means_literal c
  · exact (means_literal c).repetition (CharSet.small_letter c) (Nat.le_refl 1)

/-- A phrase means a phrase, letter by letter, with the gaps between them. -/
theorem means_phrase (repeated separators : Bool) (l : List Char) :
    List.Forall₂ Means (phrase repeated separators l) (Regex.phrase repeated separators l) := by
  induction l using phrase.induct with
  | case1 => exact .nil
  | case2 c => exact .cons (means_letter repeated c) .nil
  | case3 c rest hRest ih =>
      cases rest with
      | nil => exact absurd rfl hRest
      | cons d rest =>
          refine .cons (means_letter repeated c) (List.rel_append ?_ ih)
          cases separators
          · exact .nil
          · exact .cons means_separatorRun .nil

/-- The boundaries around a phrase are groups, numbered from the left. The phrase itself is the
second. -/
theorem means_between {content : List Pattern} {body : List Regex}
    (each : List.Forall₂ Means content body) :
    List.Forall₂ Means (between content) (Regex.between body) :=
  .cons (.capture (.alternate (means_anchor .caret) means_boundaryRun) 1 none)
    (.cons (.capture (.concat each) 2 none)
      (.cons (.capture (.alternate means_boundaryRun (means_anchor .dollar)) 3 none) .nil))

/-- The pattern that is built for a phrase means the expression of the phrase. -/
theorem means_ofPhrase (method : MatchMethod) (shape : Shape) (remove : Bool)
    {phrase : List Pattern} {body : List Regex} (each : List.Forall₂ Means phrase body) :
    List.Forall₂ Means (ofPhrase method shape remove phrase)
      (Regex.ofPhrase method shape remove body) := by
  have hBehind {p : Pattern} {r : Regex} (last : Means p r) :
      List.Forall₂ Means (phrase ++ [p]) (body ++ [r]) := List.rel_append each (.cons last .nil)
  have hSpace {ps : List Pattern} {rs : List Regex} (inner : List.Forall₂ Means ps rs) :
      List.Forall₂ Means (withSpace ps) (Regex.optionalSpace :: (rs ++ [Regex.optionalSpace])) :=
    .cons means_optionalSpace (List.rel_append inner (.cons means_optionalSpace .nil))
  have hToken : List.Forall₂ Means (wholeToken phrase)
      (Regex.between (Regex.tokenRun :: (body ++ [Regex.tokenRun]))) :=
    means_between (.cons means_tokenRun (hBehind means_tokenRun))
  have hWord : List.Forall₂ Means (wholeWord phrase)
      (Regex.edge :: Regex.wordRun :: (body ++ [Regex.wordRun, Regex.edge])) :=
    .cons means_edge (.cons means_wordRun
      (List.rel_append each (.cons means_wordRun (.cons means_edge .nil))))
  cases method with
  | regex => exact each
  | whole =>
      cases shape
      · exact hWord
      · exact hToken
  | exact =>
      cases shape
      · cases remove
        · exact .cons means_edge (hBehind means_edge)
        · exact hSpace (.cons means_edge (hBehind means_edge))
      · exact means_between each
  | within =>
      cases shape <;> cases remove
      · exact each
      · exact hSpace hWord
      · exact .cons (.capture (p := .empty) rfl 1 none)
          (.cons (.capture (.concat each) 2 none) (.cons (.capture (p := .empty) rfl 3 none) .nil))
      · exact hToken

/-- What a pattern means is what it is compiled to, unless that is too large. -/
theorem Means.regex (hp : Means p r) :
    p.regex = if r.cost ≤ Regex.maxCost then .ok r else .error .tooLarge := by
  rw [Pattern.regex, hp]
  simp only [bind, Except.bind]
  split <;> rfl

end Pattern

end Expurgate
