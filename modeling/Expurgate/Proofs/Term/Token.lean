import Expurgate.Proofs.Term.Boundary
import Mathlib.Data.List.TakeWhile

/-! When the token around a stretch is found. The search goes through the matches of a pattern from
the beginning of the text, so it depends on them whether the word in question is reached. -/
namespace Expurgate

open Unicode

/-- A stretch made of word characters, with white space or an end of the text on either side. -/
structure Delimited (h : Array Char) (i j : Nat) : Prop where
  lt : i < j
  le_size : j ≤ h.size
  word : Regex.Run isWord h i j
  before : i = 0 ∨ ∃ c, charBefore h i = some c ∧ isSpace c = true
  after : j = h.size ∨ ∃ c, h[j]? = some c ∧ isSpace c = true

namespace Delimited

variable {h : Array Char} {i j : Nat}

/-- Text without white space that meets the word lies within it. -/
theorem within_of_run (hDelimited : Delimited h i j) {p q : Nat}
    (run : Regex.Run (!isSpace ·) h p q) (hTo : q ≤ h.size) (hLeft : p < j) (hRight : i < q) :
    i ≤ p ∧ q ≤ j := by
  constructor
  · by_contra hOut
    rcases hDelimited.before with rfl | ⟨c, hBefore, hSpace⟩
    · omega
    · rw [charBefore, if_neg (by omega)] at hBefore
      obtain ⟨d, hChar, hKind⟩ := run.each (i - 1) (by omega) (by omega)
      rw [hBefore] at hChar
      obtain rfl := Option.some.inj hChar
      simp [hSpace] at hKind
  · by_contra hOut
    rcases hDelimited.after with rfl | ⟨c, hAfter, hSpace⟩
    · omega
    · obtain ⟨d, hChar, hKind⟩ := run.each j (by omega) (by omega)
      rw [hAfter] at hChar
      obtain rfl := Option.some.inj hChar
      simp [hSpace] at hKind

theorem boundary_after (hDelimited : Delimited h i j) :
    j = h.size ∨ ∃ c, h[j]? = some c ∧ isBoundary c = true := by
  rcases hDelimited.after with hEnd | ⟨c, hChar, hSpace⟩
  · exact .inl hEnd
  · exact .inr ⟨c, hChar, isBoundary_of_isSpace hSpace⟩

/-- In front of a token that is delimited there is some boundary character or the beginning of the
text, however far the run of boundary characters goes back. -/
theorem boundary_before (hDelimited : Delimited h i j) {k : Nat} (run : Regex.Run isBoundary h k i)
    (hMost : ∀ x, Regex.Run isBoundary h x i → k ≤ x) : k < i ∨ i = 0 := by
  rcases hDelimited.before with hZero | ⟨c, hBefore, hSpace⟩
  · exact .inr hZero
  · exact .inl (run.longest_lt hMost hBefore (isBoundary_of_isSpace hSpace))

end Delimited

/-- Words that fold alike are made of word characters together or not at all. -/
theorem isWord_of_mem_foldEq {l l' : List Char} (hEq : FoldEq l l')
    (hWord : ∀ c ∈ l, isWord c = true) : ∀ c ∈ l', isWord c = true := by
  induction hEq with
  | nil => exact nofun
  | cons hSame _ ih =>
      simp only [List.forall_mem_cons] at hWord ⊢
      exact ⟨(isWord_of_sameFold hSame).symm.trans hWord.1, ih hWord.2⟩

namespace Regex

def wholeToken (word : List Char) : Regex :=
  grouped leading (sequence (tokenRun :: (phrase false false word ++ [tokenRun]))) trailing

theorem ofPhrase_whole_bounded (word : List Char) :
    sequence (ofPhrase .whole .bounded false (phrase false false word)) = wholeToken word :=
  rfl

/-- A match of such a pattern: a boundary, the beginning of a token, the word, the rest of the token,
and a boundary. -/
structure TokenParts (word : List Char) (h : Array Char) (c : Captures) (i x y j : Nat) : Prop where
  marks : c.marks = groupMarks c.start i j c.stop
  leading : (c.start = 0 ∧ i = 0) ∨ (Run isBoundary h c.start i ∧ c.start < i)
  head : Run (!isBoundary ·) h i x
  le : x ≤ y
  same : FoldEq word (Span.text ⟨x, y⟩ h)
  tail : Run (!isBoundary ·) h y j
  most : ∀ k, Run (!isBoundary ·) h y k → (∃ q, trailing.Matches h k q []) → k ≤ j
  trailing : Run isBoundary h j c.stop
  le_size : c.stop ≤ h.size

theorem productive_wholeToken {word : List Char} : (wholeToken word).Productive :=
  productive_ofPhrase (fun _ => productive_of_mem_phrase) .whole .bounded false

theorem consumes_wholeToken {word : List Char} (hWord : word ≠ []) :
    (wholeToken word).consumes = true := by
  have hPhrase := @consumes_phrase false false word hWord
  rw [consumes_sequence] at hPhrase
  simp [wholeToken, grouped, consumes_sequence, consumes, hPhrase]

/-- Such a pattern matches a token that holds the word, with the boundaries around it. -/
theorem matches_wholeToken {word : List Char} {h : Array Char} {k i a b j q : Nat}
    (hLeading : leading.Matches h k i []) (head : Run (!isBoundary ·) h i a) (hLe : a ≤ b)
    (hEq : FoldEq word (Span.text ⟨a, b⟩ h)) (tail : Run (!isBoundary ·) h b j) (hSize : j ≤ h.size)
    (hTrailing : trailing.Matches h j q []) : ∃ m, (wholeToken word).Matches h k q m := by
  have hContent : (sequence (tokenRun :: (phrase false false word ++ [tokenRun]))).Matches h i j [] := by
    refine (matches_sequence_cons _ _).mpr ⟨a, [], [], matches_tokenRun_iff.mpr ⟨head, rfl⟩, ?_, rfl⟩
    refine (matches_sequence_append _ _).mpr
      ⟨b, [], [], ?_, matches_tokenRun_iff.mpr ⟨tail, rfl⟩, rfl⟩
    exact (matches_phrase_iff hLe (Nat.le_trans tail.le hSize)).mpr ⟨spells_iff_foldEq.mpr hEq, rfl⟩
  exact ⟨_, .seq (.capture hLeading) (.seq (.capture hContent) (.capture hTrailing))⟩

/-- What the pattern of a token finds falls into its parts, with the word somewhere inside. -/
theorem parts_of_wholeToken {word : List Char} {h : Array Char} {c : Captures}
    (hMem : c ∈ (wholeToken word).program.findAll h) :
    ∃ i x y j, TokenParts word h c i x y j := by
  obtain ⟨hStart, way⟩ := prefers_of_mem_findAll productive_wholeToken hMem
  have hToken : (sequence (tokenRun :: (phrase false false word ++ [tokenRun]))).Bare := by
    rw [bare_sequence, List.forall_mem_cons, List.forall_mem_append, List.forall_mem_singleton]
    exact ⟨trivial, fun _ => bare_of_mem_phrase, trivial⟩
  obtain ⟨i, j, first, second, third, hMarks⟩ := prefers_grouped bare_leading hToken
    bare_trailing way
  obtain ⟨x, _, _, hHead, rest, -⟩ := prefers_sequence_cons _ _ second
  obtain ⟨y, _, _, hWord, hTail, -⟩ := prefers_sequence_append _ _ rest
  have hEnd := way.matches.1.le_size hStart
  have hxy := hWord.matches.1.le
  have hyj := hTail.matches.1.le
  have hStop := third.matches.1.le
  obtain ⟨tail, hMost⟩ := tokenRun_greatest hTail
  have hSpells := ((matches_phrase_iff hxy (by omega)).mp hWord.matches.1).1
  refine ⟨i, x, y, j, hMarks, leading_cases first.matches.1,
    (matches_tokenRun_iff.mp hHead.matches.1).1, hxy, spells_iff_foldEq.mp hSpells, tail, ?_,
    trailing_run third.matches.1, hEnd⟩
  intro k run hGoes
  obtain ⟨q, hTrailing⟩ := hGoes
  exact hMost k run ⟨q, [], hTrailing, trivial⟩

namespace TokenParts

variable {word : List Char} {h : Array Char} {c : Captures} {i x y j : Nat}

theorem lt (parts : TokenParts word h c i x y j) (hNonempty : word ≠ []) : x < y := by
  rcases Nat.eq_or_lt_of_le parts.le with rfl | hLess
  · have hNil := parts.same
    rw [Span.text_self] at hNil
    exact absurd (List.forall₂_nil_right_iff.mp hNil) hNonempty
  · exact hLess

/-- No part of the token is a boundary. -/
theorem token (parts : TokenParts word h c i x y j) (hWord : ∀ d ∈ word, isWord d = true) :
    Run (!isBoundary ·) h i j := by
  have hTo : y ≤ h.size := by
    have := parts.tail.le
    have := parts.trailing.le
    have := parts.le_size
    omega
  have hText := isWord_of_mem_foldEq parts.same hWord
  exact parts.head.trans ((run_of_text parts.le hTo hText).not_boundary.trans parts.tail)

/-- The token is read off the second group. -/
theorem token? (parts : TokenParts word h c i x y j) {p : TokenPattern}
    (hShape : p.shape = .bounded) : p.token? c = some ⟨i, j⟩ := by
  simp [TokenPattern.token?, hShape, parts.marks, groupMarks, Captures.group?, Captures.slot?]

/-- If a match begins before the boundary in front of some place and ends within or behind it, then
its token is the one in front of this boundary. -/
theorem token_before (parts : TokenParts word h c i x y j) {k q : Nat}
    (token : Run (!isBoundary ·) h i j) (runK : Run isBoundary h k q)
    (hMost : ∀ x, Run isBoundary h x q → k ≤ x) (hk : k < q ∨ q = 0) (hFrom : c.start < k)
    (hTo : k < c.stop) : i ≤ k ∧ j = k := by
  have hLe := runK.le
  have hi : i < k := by
    by_contra hFar
    rcases parts.leading with ⟨-, hZero⟩ | ⟨run, -⟩
    · omega
    · have := hMost _ ((run.mono (Nat.le_refl _) (by omega) (by omega)).trans runK)
      omega
  refine ⟨Nat.le_of_lt hi, ?_⟩
  rcases Nat.lt_trichotomy j k with hShort | hSame | hLong
  · have := hMost j ((parts.trailing.mono (Nat.le_refl _) (by omega) (by omega)).trans runK)
    omega
  · exact hSame
  · exact (runK.false_of_not token k (by omega) (by omega)).elim

/-- A match that begins with the boundary in front of a word has this word as its token. -/
theorem token_eq (parts : TokenParts word h c i x y j) {i' j' : Nat} (hNonempty : word ≠ [])
    (token : Run (!isBoundary ·) h i j) (hDelimited : Delimited h i' j')
    (runK : Run isBoundary h c.start i') : i = i' ∧ j = j' := by
  have hLess := hDelimited.lt
  have hWord := hDelimited.word.not_boundary
  have hLeK := runK.le
  have hi := parts.head.le
  have hxy := parts.lt hNonempty
  have hj := parts.tail.le
  have hi' : i = i' := by
    rcases parts.leading with ⟨hZero, rfl⟩ | ⟨run, hSome⟩
    · by_contra hLater
      exact runK.false_of_not token 0 (by omega) (by omega)
    · rcases Nat.lt_trichotomy i i' with hShort | hSame | hLong
      · exact (runK.false_of_not token i (by omega) (by omega)).elim
      · exact hSame
      · exact (run.false_of_not hWord i' (by omega) (by omega)).elim
  have hShort : j ≤ j' := by
    by_contra hLong
    rcases hDelimited.boundary_after with rfl | ⟨d, hChar, hBoundary⟩
    · have := parts.trailing.le
      have := parts.le_size
      omega
    · have run : Run isBoundary h j' (j' + 1) := .cons hChar hBoundary (.refl _)
      exact run.false_of_not token j' (by omega) (by omega)
  have hLong := parts.most j' (hWord.mono (by omega) (by omega) (Nat.le_refl j'))
    (matches_trailing hDelimited.boundary_after)
  exact ⟨hi', by omega⟩

end TokenParts

def plainToken (word : List Char) : Regex :=
  sequence (ofPhrase .whole .plain false (phrase false false word))

theorem productive_plainToken {word : List Char} : (plainToken word).Productive :=
  productive_ofPhrase (fun _ => productive_of_mem_phrase) .whole .plain false

theorem consumes_plainToken {word : List Char} (hWord : word ≠ []) :
    (plainToken word).consumes = true := by
  have hPhrase := @consumes_phrase false false word hWord
  rw [consumes_sequence] at hPhrase
  simp [plainToken, consumes_sequence, ofPhrase, hPhrase]

section Plain

variable {word : List Char} {h : Array Char} {i a b j : Nat}

private theorem wordOrHyphen_kind : CharSet.wordOrHyphen.contains = fun c => isWord c || c == '-' :=
  funext CharSet.contains_wordOrHyphen

theorem Run.wordOrHyphen (run : Run isWord h i j) : Run CharSet.wordOrHyphen.contains h i j := by
  rw [wordOrHyphen_kind]
  exact run.imp fun c hc => by simp [hc]

theorem matches_wordRun (run : Run isWord h i j) : wordRun.Matches h i j [] := by
  rw [wordRun, matches_star_set_iff]
  exact ⟨run.wordOrHyphen, rfl⟩

/-- Such a pattern matches the word and the word characters around it, from one edge to another. -/
theorem matches_plainToken (hStart : Look.wordEdge.holds isWord h i = true)
    (head : Run isWord h i a) (hLe : a ≤ b) (hEq : FoldEq word (Span.text ⟨a, b⟩ h))
    (tail : Run isWord h b j) (hSize : j ≤ h.size)
    (hStop : Look.wordEdge.holds isWord h j = true) : (plainToken word).Matches h i j [] := by
  have hPhrase : (sequence (phrase false false word)).Matches h a b [] :=
    (matches_phrase_iff hLe (Nat.le_trans tail.le hSize)).mpr ⟨spells_iff_foldEq.mpr hEq, rfl⟩
  refine (matches_sequence_cons _ _).mpr ⟨i, [], [], .look hStart, ?_, rfl⟩
  refine (matches_sequence_cons _ _).mpr ⟨a, [], [], matches_wordRun head, ?_, rfl⟩
  refine (matches_sequence_append _ _).mpr ⟨b, [], [], hPhrase, ?_, rfl⟩
  exact .seq (matches_wordRun tail) (.look hStop)

end Plain

end Regex

namespace TokenPattern

variable {p : TokenPattern} {h : Array Char} {word : List Char}

def expression (word : List Char) : Regex :=
  .sequence (Regex.ofPhrase .whole (.ofText word) false (Regex.phrase false false word))

/-- The size of a pattern is all that stands in its way. -/
theorem build_eq (word : List Char) : build word =
    if (expression word).cost ≤ Regex.maxCost then
      some ⟨(expression word).program, .ofText word⟩
    else none := by
  have hMeans : (Pattern.concat (Pattern.ofPhrase .whole (Shape.ofText word) false
      (Pattern.phrase false false word))).regex = if (expression word).cost ≤ Regex.maxCost then
        .ok (expression word) else .error .tooLarge :=
    (Pattern.Means.concat (Pattern.means_ofPhrase _ _ _ (Pattern.means_phrase _ _ _))).regex
  simp only [build, hMeans]
  by_cases hCost : (expression word).cost ≤ Regex.maxCost
  · rw [if_pos hCost, if_pos hCost]
  · rw [if_neg hCost, if_neg hCost]

/-- A pattern can be built for a word if it stays below the size limit of a program. Nothing else
can go wrong, as the word is quoted. -/
theorem isSome_build_iff :
    (build word).isSome = true ↔ (expression word).cost ≤ Regex.maxCost := by
  rw [build_eq]
  split <;> simp_all

theorem isSome_build_of_length_le (hShort : word.length ≤ 600) :
    (build word).isSome = true := by
  have hPhrase : _ ≤ 15436 * word.length := Regex.cost_phrase_le false false word
  have hAround := Regex.cost_ofPhrase_le (Regex.phrase false false word) .whole
    (Shape.ofText word) false
  have hMax : Regex.maxCost = 10485760 := rfl
  rw [isSome_build_iff, expression]
  omega

/-- A pattern has the shape of its word and the program of the expression for it. -/
theorem build_eq_some (hBuild : build word = some p) : p.shape = .ofText word ∧
    p.program = (Regex.sequence (Regex.ofPhrase .whole p.shape false
      (Regex.phrase false false word))).program := by
  rw [build_eq] at hBuild
  split at hBuild
  · rw [← Option.some.inj hBuild]
    exact ⟨rfl, rfl⟩
  · cases hBuild

/-- A token that is found reaches from before the range to behind it. -/
theorem enclosing_bounds {range s : Span} (hFound : p.enclosing range h = some s) :
    s.start ≤ range.start ∧ range.stop ≤ s.stop := by
  rw [enclosing, Program.seekFrom_eq] at hFound
  obtain ⟨c, hFind, hToken⟩ := Option.bind_eq_some_iff.mp hFound
  have hStop := List.find?_some hFind
  have hStart := List.mem_takeWhile_imp (List.mem_of_find?_eq_some hFind)
  simp only [hToken, Option.any_some, decide_eq_true_eq, Bool.not_eq_true', decide_eq_false_iff_not,
    Nat.not_lt] at hStart hStop
  exact ⟨hStart, hStop⟩

/-- The search stops at a match around the range if the matches before it end before the range. -/
theorem enclosing_eq {range s : Span} {c : Captures} (hMem : c ∈ p.program.findAll h)
    (hToken : p.token? c = some s) (hStart : s.start ≤ range.start) (hStop : range.stop ≤ s.stop)
    (hEarlier : ∀ x ∈ p.program.findAll h, x.stop ≤ c.start →
      ∀ s', p.token? x = some s' → s'.start ≤ range.start ∧ s'.stop < range.stop) :
    p.enclosing range h = some s := by
  obtain ⟨before, behind, hSplit⟩ := List.append_of_mem hMem
  have hSuccessive := p.program.successive_findAll (h := h)
  have hBefore : ∀ x ∈ before, x.stop ≤ c.start := by
    rw [hSplit] at hSuccessive
    exact hSuccessive.stop_le_of_append
  rw [enclosing, Program.seekFrom_eq]
  change (((p.program.findAll h).takeWhile _).find? _).bind _ = _
  rw [hSplit, List.takeWhile_append_of_pos, List.takeWhile_cons_of_pos, List.find?_append,
    List.find?_eq_none.mpr, List.find?_cons_of_pos]
  · simpa using hToken
  · simpa [hToken] using hStop
  · intro x hx
    have hFound := hEarlier x (by simp [hSplit, hx]) (hBefore x hx)
    cases hx : p.token? x with
    | none => simp
    | some s' => simpa using (hFound s' hx).2
  · simpa [hToken] using hStart
  · intro x hx
    have hFound := hEarlier x (by simp [hSplit, hx]) (hBefore x hx)
    cases hx : p.token? x with
    | none => simp
    | some s' => simpa using (hFound s' hx).1

theorem ne_nil_of_foldEq {a b : Nat} (hLess : a < b) (hTo : b ≤ h.size)
    (hEq : FoldEq word (Span.text ⟨a, b⟩ h)) : word ≠ [] := by
  rintro rfl
  exact Span.text_ne_nil hLess hTo (List.forall₂_nil_left_iff.mp hEq)

section Around

variable {i j a b : Nat} (hDelimited : Delimited h i j) (hLeft : i ≤ a) (hRight : b ≤ j)
  (hLess : a < b) (hEq : FoldEq word (Span.text ⟨a, b⟩ h))
include hDelimited hLeft hRight hLess hEq

theorem isWord_of_mem_word : ∀ c ∈ word, isWord c = true := by
  have run := hDelimited.word.mono hLeft (Nat.le_of_lt hLess) hRight
  exact isWord_of_mem_foldEq hEq.symm run.forall_text

/-- A bounded pattern finds the word around each stretch it was built for, unless the token in front
of the word matches it and takes the boundary between them along. -/
theorem enclosing_of_bounded (hShape : p.shape = .bounded)
    (hProgram : p.program = (Regex.wholeToken word).program)
    (hApart : ∀ k x y, Regex.Run isBoundary h k i → Regex.Run (!isBoundary ·) h x k → y ≤ k →
      ¬FoldEq word (Span.text ⟨x, y⟩ h)) : p.enclosing ⟨a, b⟩ h = some ⟨i, j⟩ := by
  have hSize := hDelimited.le_size
  have hSolid := hDelimited.word.not_boundary
  have hWord := isWord_of_mem_word hDelimited hLeft hRight hLess hEq
  have hNonempty := ne_nil_of_foldEq hLess (by omega) hEq
  obtain ⟨k, runK, hMost⟩ := Regex.Run.exists_longest isBoundary h i
  have hk := hDelimited.boundary_before runK hMost
  have hLeK := runK.le
  obtain ⟨q, hTrailing⟩ := Regex.matches_trailing hDelimited.boundary_after
  obtain ⟨m, way⟩ := Regex.matches_wholeToken (Regex.matches_leading runK hk)
    (hSolid.mono (Nat.le_refl i) hLeft (by omega)) (Nat.le_of_lt hLess) hEq
    (hSolid.mono (by omega) hRight (Nat.le_refl j)) hSize hTrailing
  obtain ⟨c, hMem, hFrom, hTo⟩ := Regex.exists_mem_findAll Regex.productive_wholeToken
    (Regex.consumes_wholeToken hNonempty) way (by omega)
  obtain ⟨i', x, y, j', parts⟩ := Regex.parts_of_wholeToken hMem
  have token := parts.token hWord
  have hStart : c.start = k := by
    by_contra hEarlier
    obtain ⟨hi', rfl⟩ := parts.token_before token runK hMost hk (by omega) hTo
    have hHead := parts.head.le
    have hLe := parts.le
    have hTail := parts.tail.le
    exact hApart j' x y runK (token.mono hHead (by omega) (Nat.le_refl _)) hTail parts.same
  rw [← hStart] at runK hLeK
  obtain ⟨rfl, rfl⟩ := parts.token_eq hNonempty token hDelimited runK
  rw [← hProgram] at hMem
  refine enclosing_eq hMem (parts.token? hShape) hLeft hRight ?_
  intro e he hBefore s hs
  rw [hProgram] at he
  obtain ⟨i₁, x₁, y₁, j₁, earlier⟩ := Regex.parts_of_wholeToken he
  rw [earlier.token? hShape] at hs
  obtain rfl := Option.some.inj hs
  have := earlier.head.le
  have := earlier.le
  have := earlier.tail.le
  have := earlier.trailing.le
  dsimp only
  omega

end Around

end TokenPattern

end Expurgate
