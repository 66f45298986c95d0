import Expurgate.Proofs.Term.Lookup

/-! What a cache of token patterns answers over a sequence of calls. A pattern is kept under the lower
case of its word, and what it finds depends on the word it was built for. So an answer is that of a
new cache to the first word of its key, and this says for which words that makes no difference. -/
namespace Expurgate

open Unicode

/-- A question for the token around a stretch of a text that holds a word. -/
structure TokenCall where
  word : List Char
  range : Span
  text : Array Char

namespace TokenCache

/-- What the cache keeps the pattern for a word under. -/
def key (word : List Char) : String := toLower (String.ofList word)

def answers (cache : TokenCache) : List TokenCall → List (Option Span)
  | [] => []
  | call :: rest =>
    (cache.enclosing call.word call.range call.text).1 ::
      (cache.enclosing call.word call.range call.text).2.answers rest

end TokenCache

namespace TokenCall

def alone (call : TokenCall) : Option Span :=
  (TokenCache.empty.enclosing call.word call.range call.text).1

/-- The same question for the first of several words that has the same key. -/
def led (call : TokenCall) (words : List (List Char)) : TokenCall :=
  { call with
    word := (words.find? (TokenCache.key · = TokenCache.key call.word)).getD call.word }

section Alone

variable {word : List Char} (range : Span) (h : Array Char)

theorem alone_nil : alone ⟨[], range, h⟩ = none := rfl

theorem alone_of_ne_nil (hNonempty : word ≠ []) :
    alone ⟨word, range, h⟩ = (TokenPattern.build word).bind (·.enclosing range h) := by
  rw [alone, TokenCache.enclosing, if_neg (by simpa using hNonempty)]
  rfl

end Alone

/-- A question is led to one of the words, if its own is among them. -/
theorem exists_led (call : TokenCall) {words : List (List Char)} (hMem : call.word ∈ words) :
    ∃ first ∈ words, words.find? (TokenCache.key · = TokenCache.key call.word) = some first ∧
      TokenCache.key first = TokenCache.key call.word ∧
      call.led words = ⟨first, call.range, call.text⟩ := by
  obtain ⟨first, hFirst⟩ := Option.isSome_iff_exists.mp
    (List.find?_isSome.mpr ⟨call.word, hMem, decide_eq_true rfl⟩ :
      (words.find? (TokenCache.key · = TokenCache.key call.word)).isSome)
  refine ⟨first, List.mem_of_find?_eq_some hFirst, hFirst, by simpa using List.find?_some hFirst, ?_⟩
  rw [led, hFirst]
  rfl

/-- Words behind one with the key of the question do not matter. -/
theorem led_append {call : TokenCall} {before : List (List Char)} (behind : List (List Char))
    (hMem : call.word ∈ before) : call.led (before ++ behind) = call.led before := by
  obtain ⟨first, -, hFirst, -⟩ := exists_led call hMem
  rw [led, led, List.find?_append, hFirst]
  rfl

end TokenCall

namespace TokenCache

variable {cache : TokenCache} {words : List (List Char)} {word word' : List Char}

/-- Only the empty word has the key of the empty word, as no character has an empty lower case. -/
theorem key_eq_nil (hKey : key word = key []) : word = [] := by
  cases word with
  | nil => rfl
  | cons c rest =>
      have hLower : lowerAfter [] (c :: rest) = lowerAfter [] [] := by
        simpa [key, toLower, String.ofList_inj] using hKey
      rw [lowerAfter] at hLower
      obtain ⟨hHead, -⟩ := List.append_eq_nil_iff.mp hLower
      split at hHead
      · cases hHead
      · rw [lowerChar] at hHead
        split at hHead <;> cases hHead

theorem ne_nil_of_key (hKey : key word' = key word) (hNonempty : word ≠ []) : word' ≠ [] := by
  rintro rfl
  exact hNonempty (key_eq_nil hKey.symm)

/-- For each word the cache holds the pattern of the first of several words with its key. -/
def Holds (cache : TokenCache) (words : List (List Char)) : Prop :=
  ∀ word ≠ [], cache.entries.find? (·.1 = key word) =
    (words.find? (key · = key word)).map fun first => (key word, TokenPattern.build first)

theorem holds_empty : empty.Holds [] := fun _ _ => rfl

/-- One call of the cache. The pattern that it answers with was built for the first word of its key,
which may be another spelling than the one that is asked about. -/
theorem Holds.pattern (holds : cache.Holds words) (hNonempty : word ≠ []) {first : List Char}
    (hFirst : (words ++ [word]).find? (key · = key word) = some first) :
    (cache.pattern word).1 = TokenPattern.build first ∧
      (cache.pattern word).2.Holds (words ++ [word]) := by
  have hHeld := holds word hNonempty
  unfold TokenCache.pattern
  rw [show toLower (String.ofList word) = key word from rfl]
  dsimp only
  cases hFind : words.find? (key · = key word) with
  | some _ =>
      obtain rfl := Option.some.inj (by simpa [List.find?_append, hFind] using hFirst)
      rw [hHeld, hFind]
      refine ⟨rfl, fun other hOther => ?_⟩
      rw [Option.map_some, holds other hOther, List.find?_append]
      cases hLater : words.find? (key · = key other) with
      | some _ => rfl
      | none =>
          -- The word has a key that was there, and the other one has a new one.
          have hApart : key word ≠ key other := fun hSame => by simp [← hSame, hFind] at hLater
          simp [hApart]
  | none =>
      obtain rfl : word = first := by simpa [List.find?_append, hFind] using hFirst
      rw [hHeld, hFind]
      refine ⟨rfl, fun other hOther => ?_⟩
      by_cases hSame : key word = key other
      · simp [← hSame, List.find?_append, hFind]
      · simp [hSame, List.find?_append, holds other hOther]

/-- A question adds its word to those that the cache goes by. -/
theorem Holds.enclosing (holds : cache.Holds words) (call : TokenCall) :
    (cache.enclosing call.word call.range call.text).1 =
        (call.led (words ++ [call.word])).alone ∧
      (cache.enclosing call.word call.range call.text).2.Holds (words ++ [call.word]) := by
  obtain ⟨word, range, h⟩ := call
  have hMem : word ∈ words ++ [word] := List.mem_concat_self
  obtain ⟨first, -, hFind, hKey, hLead⟩ := TokenCall.exists_led ⟨word, range, h⟩ hMem
  rw [hLead]
  dsimp only at hFind hKey ⊢
  by_cases hNil : word = []
  · subst hNil
    obtain rfl := key_eq_nil hKey
    refine ⟨(TokenCall.alone_nil range h).symm, fun other hOther => ?_⟩
    have hApart : key [] ≠ key other := fun hSame => hOther (key_eq_nil hSame.symm)
    rw [show (cache.enclosing [] range h).2 = cache from rfl, holds other hOther]
    simp [List.find?_append, hApart]
  · obtain ⟨hPattern, hAfter⟩ := holds.pattern hNil hFind
    rw [TokenCall.alone_of_ne_nil range h (ne_nil_of_key hKey hNil), TokenCache.enclosing,
      if_neg (by simpa using hNil), ← hPattern]
    exact ⟨rfl, hAfter⟩

/-- A list of calls is answered as if each were asked alone, about the first word with the same key.
The words of earlier calls are the ones that count. -/
theorem answers_of_holds (holds : cache.Holds words) (calls : List TokenCall) :
    cache.answers calls =
      calls.map fun call => (call.led (words ++ calls.map (·.word))).alone := by
  induction calls generalizing cache words with
  | nil => rfl
  | cons call rest ih =>
      obtain ⟨hAnswer, hAfter⟩ := holds.enclosing call
      have hWords : words ++ (call :: rest).map (·.word) =
          words ++ [call.word] ++ rest.map (·.word) := by simp
      rw [hWords, answers, hAnswer, ih hAfter, List.map_cons,
        TokenCall.led_append _ List.mem_concat_self]

end TokenCache

namespace Regex

theorem letter_congr {repeated : Bool} {c d : Char} (hSame : sameFold c d = true) :
    letter repeated c = letter repeated d := by
  have hOrbit : orbit c.toNat = orbit d.toNat := by
    simp only [orbit, sameFold_iff.mp hSame]
  simp only [letter, CharSet.letter, hOrbit]

/-- Words that fold alike have the same expression, so it does not matter which of them a pattern is
built for. The shapes may still differ. -/
theorem phrase_congr {repeated separators : Bool} {l l' : List Char} (hEq : FoldEq l l') :
    phrase repeated separators l = phrase repeated separators l' := by
  induction hEq with
  | nil => rfl
  | cons hSame hRest ih =>
      cases hRest with
      | nil => rw [phrase, phrase, letter_congr hSame]
      | cons =>
          change letter repeated _ :: (gap separators ++ phrase repeated separators (_ :: _)) =
            letter repeated _ :: (gap separators ++ phrase repeated separators (_ :: _))
          rw [letter_congr hSame, ih]

/-- In a text that is not longer than the word, the word is all of the text. -/
theorem TokenParts.whole {word : List Char} {h : Array Char} {c : Captures} {i x y j : Nat}
    (parts : TokenParts word h c i x y j) (hShort : h.size ≤ word.length) :
    i = 0 ∧ x = 0 ∧ y = h.size ∧ h.size ≤ j := by
  have hTail := parts.tail.le
  have hTrailing := parts.trailing.le
  have hSize := parts.le_size
  have hLength := parts.same.length_eq
  rw [Span.length_text (by omega)] at hLength
  have hHead := parts.head.le
  have hLe := parts.le
  omega

end Regex

namespace TokenPattern

variable {word word' : List Char} {p : TokenPattern} {h : Array Char}

/-- Words of one shape that are equal up to case have the same pattern. -/
theorem build_congr (hShape : Shape.ofText word = Shape.ofText word') (hEq : FoldEq word word') :
    build word = build word' := by
  have hRegex (shape : Shape) (l : List Char) := (Pattern.Means.concat (Pattern.means_ofPhrase .whole
    shape false (Pattern.means_phrase false false l))).regex
  simp only [build, hRegex, hShape, Regex.phrase_congr hEq]

/-- A token that is found comes from one of the matches of its pattern. -/
theorem exists_of_enclosing {range s : Span} (hFound : p.enclosing range h = some s) :
    ∃ c ∈ p.program.findAll h, p.token? c = some s := by
  rw [enclosing, Program.seekFrom_eq] at hFound
  obtain ⟨c, hFind, hToken⟩ := Option.bind_eq_some_iff.mp hFound
  exact ⟨c, (List.takeWhile_sublist _).mem (List.mem_of_find?_eq_some hFind), hToken⟩

/-- The token of a match in which a place lies is the one around the place, if the token holds it. -/
theorem enclosing_place {r : Nat} {s : Span} {c : Captures} (hMem : c ∈ p.program.findAll h)
    (hToken : p.token? c = some s) (hFrom : c.start ≤ r) (hStart : s.start ≤ r) (hStop : r < s.stop)
    (hWithin : ∀ x ∈ p.program.findAll h, ∀ s', p.token? x = some s' →
      s'.start ≤ s'.stop ∧ s'.stop ≤ x.stop) : p.enclosing ⟨r, r + 1⟩ h = some s := by
  refine enclosing_eq hMem hToken hStart hStop fun x hx hEarlier s' hs' => ?_
  have := hWithin x hx s' hs'
  dsimp only
  omega

section Plain

variable (hShape : p.shape = .plain) (hProgram : p.program = (Regex.plainToken word).program)

include hShape hProgram

/-- A plain pattern finds its word where it stands between two letters, with a sign in front. -/
theorem exists_enclosing_plain (hNonempty : word ≠ []) :
    ∃ s, p.enclosing ⟨1, 2⟩ ('/' :: 'a' :: (word ++ ['a'])).toArray = some s ∧ s.start = 1 := by
  generalize hText : ('/' :: 'a' :: (word ++ ['a'])).toArray = h
  have hSign : h[0]? = some '/' := by simp [← hText]
  have hFirst : h[1]? = some 'a' := by simp [← hText]
  have hLast : h[2 + word.length]? = some 'a' := by
    rw [← hText, List.getElem?_toArray, Nat.add_comm]
    simp
  have hSize : h.size = 3 + word.length := by
    simp only [← hText, List.size_toArray, List.length_cons, List.length_append, List.length_nil]
    omega
  have hWord : Span.text ⟨2, 2 + word.length⟩ h = word := by
    simp [Span.text_eq, ← hText]
  have hLetter : isWord 'a' = true := by decide
  have hStart : Look.wordEdge.holds isWord h 1 = true := by
    simp [Look.holds, charBefore, hSign, hFirst, hLetter, show isWord '/' = false by decide]
  have hBehind : h[3 + word.length]? = none := Array.getElem?_eq_none (Nat.le_of_eq hSize)
  have hBefore : charBefore h (3 + word.length) = some 'a' := by
    rw [charBefore, if_neg (by omega), show 3 + word.length - 1 = 2 + word.length by omega, hLast]
  have hStop : Look.wordEdge.holds isWord h (3 + word.length) = true := by
    simp [Look.holds, hBefore, hBehind, hLetter]
  have tail : Regex.Run isWord h (2 + word.length) (3 + word.length) :=
    .cons hLast hLetter (by rw [show 2 + word.length + 1 = 3 + word.length by omega]; exact .refl _)
  have way : (Regex.plainToken word).Matches h 1 (3 + word.length) [] :=
    Regex.matches_plainToken hStart (.cons hFirst hLetter (.refl 2)) (Nat.le_add_right _ _)
      (by rw [hWord]; exact .refl word) tail (by omega) hStop
  obtain ⟨c, hMem, hFrom, hTo⟩ := Regex.exists_mem_findAll Regex.productive_plainToken
    (Regex.consumes_plainToken hNonempty) way (by omega)
  have hBegin : c.start = 1 := by
    obtain ⟨-, prefers⟩ := Regex.prefers_of_mem_findAll Regex.productive_plainToken hMem
    obtain ⟨_, _, _, hEdge, -, -⟩ := Regex.prefers_sequence_cons _ _ prefers
    obtain ⟨hHolds, -, -⟩ := Regex.matches_look_iff.mp hEdge.matches.1
    by_contra hNot
    rw [show c.start = 0 by omega] at hHolds
    simp [Look.holds, charBefore, hSign, show isWord '/' = false by decide] at hHolds
  rw [← hProgram] at hMem
  refine ⟨⟨c.start, c.stop⟩, enclosing_place hMem (by rw [token?, hShape]) hFrom hFrom hTo ?_, hBegin⟩
  intro x hx s hs
  rw [token?, hShape] at hs
  obtain rfl := Option.some.inj hs
  exact ⟨p.program.successive_findAll.le_of_mem hx, Nat.le_refl _⟩

end Plain

section Bounded

variable (hShape : p.shape = .bounded) (hProgram : p.program = (Regex.wholeToken word).program)

include hShape hProgram

theorem exists_parts_of_enclosing {range s : Span} (hFound : p.enclosing range h = some s) :
    ∃ c x y, Regex.TokenParts word h c s.start x y s.stop := by
  obtain ⟨c, hMem, hToken⟩ := exists_of_enclosing hFound
  rw [hProgram] at hMem
  obtain ⟨i, x, y, j, parts⟩ := Regex.parts_of_wholeToken hMem
  rw [parts.token? hShape] at hToken
  obtain rfl := Option.some.inj hToken
  exact ⟨c, x, y, parts⟩

/-- No token that a bounded pattern finds begins behind a sign that is not a boundary. -/
theorem start_ne_of_bounded {range s : Span} (hHead : h[0]? = some '/')
    (hFound : p.enclosing range h = some s) : s.start ≠ 1 := by
  intro hOne
  obtain ⟨c, x, y, parts⟩ := exists_parts_of_enclosing hShape hProgram hFound
  rcases parts.leading with ⟨-, hZero⟩ | ⟨run, hSome⟩
  · omega
  · obtain ⟨d, hChar, hBoundary⟩ := run.each 0 (by omega) (by omega)
    obtain rfl := Option.some.inj (hHead.symm.trans hChar)
    revert hBoundary
    decide

/-- A bounded pattern finds its word where there is nothing else. -/
theorem exists_enclosing_bounded (hNonempty : word ≠ []) :
    ∃ s, p.enclosing ⟨0, 1⟩ word.toArray = some s := by
  have hWord : Span.text ⟨0, word.toArray.size⟩ word.toArray = word := Span.text_zero_size _
  obtain ⟨q, hTrailing⟩ := Regex.matches_trailing (h := word.toArray) (.inl rfl)
  obtain ⟨m, way⟩ : ∃ m, (Regex.wholeToken word).Matches word.toArray 0 q m :=
    Regex.matches_wholeToken (Regex.matches_leading (.refl 0) (.inr rfl)) (.refl 0) (Nat.zero_le _)
    (by rw [hWord]; exact .refl word) (.refl _) (Nat.le_refl _) hTrailing
  obtain ⟨c, hMem, hFrom, hTo⟩ := Regex.exists_mem_findAll Regex.productive_wholeToken
    (Regex.consumes_wholeToken hNonempty) way (Nat.zero_le _)
  obtain ⟨i, x, y, j, parts⟩ := Regex.parts_of_wholeToken hMem
  obtain ⟨rfl, -, -, hLong⟩ := parts.whole (Nat.le_refl _)
  have hSome : 0 < j := Nat.lt_of_lt_of_le (List.length_pos_iff.mpr hNonempty) hLong
  rw [← hProgram] at hMem
  refine ⟨⟨0, j⟩, enclosing_place hMem (parts.token? hShape) hFrom (Nat.le_refl 0) hSome ?_⟩
  intro e he s hs
  rw [hProgram] at he
  obtain ⟨i', x', y', j', others⟩ := Regex.parts_of_wholeToken he
  rw [others.token? hShape] at hs
  obtain rfl := Option.some.inj hs
  exact ⟨Nat.le_trans others.head.le (Nat.le_trans others.le others.tail.le), others.trailing.le⟩

/-- A bounded pattern finds nothing in another text that is not longer than its word. -/
theorem foldEq_of_enclosing {l : List Char} {range s : Span} (hShort : l.length ≤ word.length)
    (hFound : p.enclosing range l.toArray = some s) : FoldEq word l := by
  obtain ⟨c, x, y, parts⟩ := exists_parts_of_enclosing hShape hProgram hFound
  obtain ⟨-, rfl, rfl, -⟩ := parts.whole hShort
  simpa only [Span.text_zero_size] using parts.same

end Bounded

end TokenPattern

/-- Words whose patterns can stand in for each other: they have the same shape and are equal up to
case, or there is no pattern for either. -/
def Exchangeable (word word' : List Char) : Prop :=
  (TokenPattern.build word = none ∧ TokenPattern.build word' = none) ∨
    (Shape.ofText word = Shape.ofText word' ∧ FoldEq word word')

/-- Words that may be exchanged have one pattern, and it makes no difference which of them came
first. -/
theorem Exchangeable.build_eq {word word' : List Char} (hSame : Exchangeable word word') :
    TokenPattern.build word = TokenPattern.build word' := by
  rcases hSame with ⟨hNone, hNone'⟩ | ⟨hShape, hEq⟩
  · rw [hNone, hNone']
  · exact TokenPattern.build_congr hShape hEq

namespace TokenPattern

variable {word word' : List Char} {p p' : TokenPattern}

/-- Every pattern finds something somewhere. -/
theorem exists_enclosing (hNonempty : word ≠ []) (hBuild : build word = some p) :
    ∃ range h s, p.enclosing range h = some s := by
  obtain ⟨-, hProgram⟩ := build_eq_some hBuild
  cases hShape : p.shape with
  | plain =>
      rw [hShape] at hProgram
      obtain ⟨s, hFound, -⟩ := exists_enclosing_plain hShape hProgram hNonempty
      exact ⟨_, _, s, hFound⟩
  | bounded =>
      rw [hShape] at hProgram
      obtain ⟨s, hFound⟩ := exists_enclosing_bounded hShape hProgram hNonempty
      exact ⟨_, _, s, hFound⟩

/-- A plain and a bounded pattern do not always find the same. -/
theorem exists_ne_of_shapes (hNonempty : word ≠ []) (hBuild : build word = some p)
    (hBuild' : build word' = some p') (hPlain : p.shape = .plain) (hBounded : p'.shape = .bounded) :
    ∃ range h, p.enclosing range h ≠ p'.enclosing range h := by
  obtain ⟨-, hProgram⟩ := build_eq_some hBuild
  obtain ⟨-, hProgram'⟩ := build_eq_some hBuild'
  rw [hPlain] at hProgram
  rw [hBounded] at hProgram'
  obtain ⟨s, hFound, hOne⟩ := exists_enclosing_plain hPlain hProgram hNonempty
  refine ⟨⟨1, 2⟩, ('/' :: 'a' :: (word ++ ['a'])).toArray, fun hSame => ?_⟩
  exact start_ne_of_bounded hBounded hProgram' rfl (hSame.symm.trans hFound) hOne

/-- Two bounded patterns that always find the same are for words that are equal up to case. -/
theorem foldEq_of_bounded (hNonempty : word ≠ []) (hBuild : build word = some p)
    (hBuild' : build word' = some p') (hBounded : p.shape = .bounded) (hBounded' : p'.shape = .bounded)
    (hShort : word.length ≤ word'.length)
    (hAlike : ∀ range h, p.enclosing range h = p'.enclosing range h) : FoldEq word word' := by
  obtain ⟨-, hProgram⟩ := build_eq_some hBuild
  obtain ⟨-, hProgram'⟩ := build_eq_some hBuild'
  rw [hBounded] at hProgram
  rw [hBounded'] at hProgram'
  obtain ⟨s, hFound⟩ := exists_enclosing_bounded hBounded hProgram hNonempty
  exact (foldEq_of_enclosing hBounded' hProgram' hShort ((hAlike _ _).symm.trans hFound)).symm

end TokenPattern

/-- A word with a plain shape is Latin-1. -/
theorem not_dotted_of_plain {word : List Char} (hShape : Shape.ofText word = .plain) : 'İ' ∉ word := by
  intro hMem
  have hNonLatin : hasNonLatin word = true :=
    List.any_eq_true.mpr ⟨'İ', hMem, by decide⟩
  simp [Shape.ofText, hNonLatin] at hShape

/-- A new cache answers alike for two words of one key only if they are exchangeable. -/
theorem exchangeable_of_alike {word word' : List Char} (hNonempty : word ≠ [])
    (hNonempty' : word' ≠ []) (hKey : TokenCache.key word = TokenCache.key word')
    (hAlike : ∀ range h, (TokenPattern.build word).bind (·.enclosing range h) =
      (TokenPattern.build word').bind (·.enclosing range h)) : Exchangeable word word' := by
  cases hBuild : TokenPattern.build word with
  | none =>
      cases hBuild' : TokenPattern.build word' with
      | none => exact .inl ⟨hBuild, hBuild'⟩
      | some p' =>
          obtain ⟨range, h, s, hFound⟩ := TokenPattern.exists_enclosing hNonempty' hBuild'
          have hNone := hAlike range h
          simp [hBuild, hBuild', hFound] at hNone
  | some p =>
      cases hBuild' : TokenPattern.build word' with
      | none =>
          obtain ⟨range, h, s, hFound⟩ := TokenPattern.exists_enclosing hNonempty hBuild
          have hNone := hAlike range h
          simp [hBuild, hBuild', hFound] at hNone
      | some p' =>
          have hSame : ∀ range h, p.enclosing range h = p'.enclosing range h := by
            simpa [hBuild, hBuild'] using hAlike
          obtain ⟨hShape, -⟩ := TokenPattern.build_eq_some hBuild
          obtain ⟨hShape', -⟩ := TokenPattern.build_eq_some hBuild'
          refine .inr ?_
          cases hKind : p.shape <;> cases hKind' : p'.shape
          case plain.plain =>
            refine ⟨by rw [← hShape, ← hShape', hKind, hKind'], foldEq_of_toLower_eq ?_ ?_ hKey⟩
            · exact not_dotted_of_plain (hShape.symm.trans hKind)
            · exact not_dotted_of_plain (hShape'.symm.trans hKind')
          case plain.bounded =>
            obtain ⟨range, h, hNe⟩ :=
              TokenPattern.exists_ne_of_shapes hNonempty hBuild hBuild' hKind hKind'
            exact absurd (hSame range h) hNe
          case bounded.plain =>
            obtain ⟨range, h, hNe⟩ :=
              TokenPattern.exists_ne_of_shapes hNonempty' hBuild' hBuild hKind' hKind
            exact absurd (hSame range h).symm hNe
          case bounded.bounded =>
            refine ⟨by rw [← hShape, ← hShape', hKind, hKind'], ?_⟩
            rcases Nat.le_total word.length word'.length with hShort | hShort
            · exact TokenPattern.foldEq_of_bounded hNonempty hBuild hBuild' hKind hKind' hShort hSame
            · exact (TokenPattern.foldEq_of_bounded hNonempty' hBuild' hBuild hKind' hKind hShort
                fun range h => (hSame range h).symm).symm

namespace TokenCache

/-- A cache answers each question as a new one does for the first word of the same key. So among some
words the answers do not depend on the words before exactly if those of one key are exchangeable. -/
theorem answers_led (P : List Char → Prop) :
    (∀ calls, empty.answers calls = calls.map fun call => (call.led (calls.map (·.word))).alone) ∧
    ((∀ calls, (∀ call ∈ calls, P call.word) → empty.answers calls = calls.map TokenCall.alone) ↔
      ∀ word word', P word → P word' → word ≠ [] → word' ≠ [] → key word = key word' →
        Exchangeable word word') := by
  have hLed (calls : List TokenCall) :
      empty.answers calls = calls.map fun call => (call.led (calls.map (·.word))).alone := by
    simpa using answers_of_holds holds_empty calls
  refine ⟨hLed, fun hAlone word word' hP hP' hNonempty hNonempty' hKey => ?_,
    fun hExchangeable calls hCalls => ?_⟩
  · refine exchangeable_of_alike hNonempty hNonempty' hKey fun range h => ?_
    -- The second of two questions is answered for the first word.
    have hTwo := hAlone [⟨word, range, h⟩, ⟨word', range, h⟩] (by simp [hP, hP'])
    rw [hLed] at hTwo
    have hSecond : (TokenCall.led ⟨word', range, h⟩ [word, word']).alone =
        (⟨word', range, h⟩ : TokenCall).alone := (List.cons.inj (List.cons.inj hTwo).2).1
    have hFirst : TokenCall.led ⟨word', range, h⟩ [word, word'] = ⟨word, range, h⟩ := by
      simp [TokenCall.led, hKey]
    rwa [hFirst, TokenCall.alone_of_ne_nil _ _ hNonempty,
      TokenCall.alone_of_ne_nil _ _ hNonempty'] at hSecond
  · rw [hLed]
    refine List.map_congr_left fun call hMem => ?_
    obtain ⟨first, hFirst, -, hKey, hLead⟩ := TokenCall.exists_led call (List.mem_map_of_mem hMem)
    obtain ⟨other, hOther, rfl⟩ := List.mem_map.mp hFirst
    have hP : P call.word := hCalls call hMem
    rw [hLead]
    obtain ⟨word, range, h⟩ := call
    dsimp only at hKey hP ⊢
    by_cases hNil : word = []
    · subst hNil
      rw [key_eq_nil hKey]
    · have hNonempty : other.word ≠ [] := ne_nil_of_key hKey hNil
      have hSame : Exchangeable other.word word :=
        hExchangeable _ _ (hCalls other hOther) hP hNonempty hNil hKey
      rw [TokenCall.alone_of_ne_nil _ _ hNil, TokenCall.alone_of_ne_nil _ _ hNonempty,
        hSame.build_eq]

/-- The sign for Kelvin has the key of a letter, but it is not Latin-1. -/
example : key ['\u212A'] = key ['k'] ∧ Shape.ofText ['\u212A'] ≠ Shape.ofText ['k'] := by
  decide +kernel

end TokenCache

end Expurgate
