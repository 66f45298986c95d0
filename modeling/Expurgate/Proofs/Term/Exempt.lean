import Expurgate.AllowList
import Expurgate.Proofs.Term.Around

/-! Which matches inside words are exempt. For a term of word characters these are the matches whose
content is allowed and those in an allowed token, as long as the pattern for the token is not refused
for its size. -/
namespace Expurgate

open Unicode Regex

variable {h : Array Char} {word : List Char} {i : Nat}

namespace AllowList

variable {a : AllowList} {t : Term} {m : MatchParts}

/-- An empty list contains no word, not even the empty one. -/
theorem contains_of_isEmpty (hEmpty : a.isEmpty = true) (word : List Char) :
    a.contains word = false := by
  simp only [isEmpty, Bool.and_eq_true, List.isEmpty_iff] at hEmpty
  simp [contains, hEmpty]

/-- Without patterns of earlier matches, a match inside a word stays if its word is allowed or the
token that the pattern for the word finds is. -/
theorem exempts_empty_iff (hMethod : t.method = .within) (hNonempty : (m.word h).text h ≠ []) :
    (a.exempts t m h .empty).1 = true ↔ a.contains ((m.word h).text h) = true ∨
      ∃ token, (TokenPattern.build ((m.word h).text h)).bind (·.enclosing (m.word h) h) =
        some token ∧ a.contains (token.text h) = true := by
  have hFull : ((m.word h).text h).isEmpty = false := by simpa using hNonempty
  have hToken : (TokenCache.empty.enclosing ((m.word h).text h) (m.word h) h).1 =
      (TokenPattern.build ((m.word h).text h)).bind (·.enclosing (m.word h) h) := by
    rw [TokenCache.enclosing, hFull]
    rfl
  by_cases hEmpty : a.isEmpty = true
  · simp [exempts, hEmpty, contains_of_isEmpty hEmpty]
  · by_cases hContains : a.contains ((m.word h).text h) = true
    · simp [exempts, hEmpty, hContains]
    · simp only [exempts, hEmpty, hContains, hMethod, if_true, Bool.false_eq_true, if_false, hToken,
        Option.any_eq_true, Bool.and_eq_true, decide_eq_true_eq, false_or]
      refine exists_congr fun token => and_congr_right fun _ => and_iff_right_of_imp ?_
      intro hAllowed hSame
      rw [hSame] at hAllowed
      exact hContains hAllowed

end AllowList

namespace Term

variable {o : TermOptions} {s : Settings} {t : Term} {c : Captures} {m : MatchParts}

/-- A match inside a word, of a term of word characters, lies in a token of the text. If its content
is of Latin-1 and no pattern was built before, then it stays if and only if its content is allowed,
or the pattern for the content can be built and the token is allowed. The pattern can be built for
contents of up to 600 characters. -/
theorem exempts_iff_token (hCompile : compile o s = .ok t) (hMethod : o.methodIn s = .within)
    (hWord : ∀ d ∈ o.text.toList, isWord d = true) (hSeparators : o.separatorsIn s = false)
    (hKeep : s.filterMethod ≠ .remove) (hMem : c ∈ t.occurrences h) (hSplit : t.split c = some m)
    (hLatin : ∀ d ∈ m.content.text h, d.toNat ≤ 0xFF) (a : AllowList) :
    ((m.content.text h).length ≤ 600 →
        (TokenPattern.build (m.content.text h)).isSome = true) ∧
      ∃ token, IsToken h token ∧ token.start ≤ m.content.start ∧ m.content.stop ≤ token.stop ∧
        ((a.exempts t m h .empty).1 = true ↔ a.contains (m.content.text h) = true ∨
          (TokenPattern.build (m.content.text h)).isSome = true ∧
            a.contains (token.text h) = true) := by
  have ht := prepared_of_compile hCompile
  have found : t.FoundAt h c := ht.foundAt hMethod hKeep (by rwa [ht.text]) hMem
  obtain ⟨m', hSplit', -, hContent, hPart⟩ := found.parts
  obtain rfl := Option.some.inj (hSplit.symm.trans hSplit')
  have spells := found.found.spells
  rw [ht.separators, hSeparators, ht.text] at spells
  have hChars := isWord_of_spells spells hWord
  rw [hContent] at hLatin ⊢
  obtain ⟨token, isToken, hFrom, hTo⟩ := exists_isToken
    (run_of_text (Nat.le_of_lt found.lt) found.le_size hChars) found.lt found.le_size
  refine ⟨TokenPattern.isSome_build_of_length_le, token, isToken, hFrom, hTo, ?_⟩
  have hNonempty := Span.text_ne_nil found.lt found.le_size
  rw [AllowList.exempts_empty_iff (ht.method.trans hMethod) (by rwa [hPart]), hPart,
    TokenPattern.bind_enclosing hChars hLatin isToken hFrom hTo found.lt rfl]
  by_cases hBuilt : (TokenPattern.build (Span.text ⟨c.start, c.stop⟩ h)).isSome = true <;>
    simp [hBuilt]

/-- A match within "brass" stays where "brass" is allowed. -/
theorem exempts_iff_token_brass :
    ∃ t c m, compile ((TermOptions.ofText "ass").withMethod .within) .default = .ok t ∧
      c ∈ t.occurrences "a brass band".toList.toArray ∧ t.split c = some m ∧
      (AllowList.exempts ⟨["brass"], []⟩ t m "a brass band".toList.toArray .empty).1 = true := by
  let o := (TermOptions.ofText "ass").withMethod .within
  let h := "a brass band".toList.toArray
  obtain ⟨t, ht⟩ := @exists_compile o .default (by decide) (by decide) (by decide)
  have hPrepared := prepared_of_compile ht
  have hLetters : t.text.toList = "ass".toList := by rw [hPrepared.text]; rfl
  have hWord : ∀ d ∈ o.text.toList, isWord d = true := List.all_eq_true.mp (by decide)
  have spells : Spells t.repeated t.separators t.text.toList (Span.text ⟨4, 7⟩ h) := by
    rw [hLetters]
    exact .self _ _ "ass".toList
  obtain ⟨c, hMem, hFrom, hTo⟩ := hPrepared.exists_within rfl (by decide) (by decide) (by decide)
    spells
  have found := hPrepared.foundAt rfl (by decide) (by rwa [hPrepared.text]) hMem
  obtain ⟨m, hSplit, -, hContent, -⟩ := found.parts
  have hChars : ∀ d ∈ m.content.text h, d ∈ h.toList := by
    rw [hContent]
    exact found.found.mem
  have hLatin : (h.toList.all fun d => d.toNat ≤ 0xFF) = true := by decide
  obtain ⟨hShort, token, isToken, hLeft, hRight, hExempts⟩ := exempts_iff_token ht rfl hWord rfl
    (by decide) hMem hSplit
    (fun d hd => of_decide_eq_true (List.all_eq_true.mp hLatin d (hChars d hd))) ⟨["brass"], []⟩
  rw [hContent] at hShort hLeft hRight hExempts
  have brass : IsToken h ⟨2, 7⟩ := by
    refine ⟨⟨2, 7, ⟨run_of_text (by decide) (by decide) (List.all_eq_true.mp (by decide)), ?_, ?_⟩,
      .refl 2, .refl 7⟩, by decide, by decide, by decide⟩
    · rintro c ⟨⟩
      decide
    · rintro c ⟨⟩
      decide
  obtain rfl : token = ⟨2, 7⟩ := isToken.eq_of_mem (i := 4) brass
    ⟨Nat.le_trans hLeft hFrom, Nat.lt_of_lt_of_le hTo hRight⟩ ⟨by decide, by decide⟩
  have hSize : h.size = 12 := rfl
  have hBuilt := hShort (by
    have := found.le_size
    rw [Span.length_text found.le_size]
    omega)
  exact ⟨t, c, m, ht, hMem, hSplit, hExempts.mpr (.inr ⟨hBuilt, by decide⟩)⟩

end Term

section Refused

theorem Regex.le_cost_letter (repeated : Bool) (c : Char) : 64 ≤ (letter repeated c).cost := by
  cases repeated <;> simp only [letter, cost, if_true, Bool.false_eq_true, if_false] <;> omega

/-- Each character of a phrase has a share in its cost, and the phrase in that of a pattern. -/
theorem Regex.le_cost_phrase (repeated separators : Bool) (l : List Char) :
    64 * l.length ≤ (sequence (phrase repeated separators l)).cost := by
  induction l using phrase.induct with
  | case1 => simp
  | case2 c => simpa [phrase, sequence] using le_cost_letter repeated c
  | case3 c rest hRest ih =>
      have hLetter := le_cost_letter repeated c
      rw [phrase.eq_3 _ _ _ _ hRest, cost_cons, cost_sequence_append, List.length_cons]
      omega

/-- What stands around a phrase only adds to its cost, so a phrase that is too large by itself makes
every expression with it too large. -/
theorem Regex.le_cost_ofPhrase (body : List Regex) (method : MatchMethod) (shape : Shape)
    (remove : Bool) :
    (sequence body).cost ≤ (sequence (ofPhrase method shape remove body)).cost := by
  cases method <;> cases shape <;> cases remove <;>
    simp only [ofPhrase, between, cost_nil, cost_cons, cost_sequence_append, cost, if_true,
      Bool.false_eq_true, if_false] <;> omega

/-- For a very long word there is no pattern. -/
theorem TokenPattern.build_of_long (hLong : 163840 < word.length) : build word = none := by
  have hPhrase := le_cost_phrase false false word
  have hWhole := le_cost_ofPhrase (phrase false false word) .whole (.ofText word) false
  have hMax : Regex.maxCost = 10485760 := rfl
  rw [build_eq, expression, if_neg (by omega)]

/-- A term that takes one letter along inside words, however often it is repeated. -/
def TermOptions.stretched : TermOptions :=
  { TermOptions.ofText "k" with
    matchMethod := some .within
    repeated := some true }

/-- Another letter in front of many of these. -/
def tailed (n : Nat) : Array Char := ('b' :: List.replicate n 'k').toArray

variable {n : Nat} {t : Term}

theorem size_tailed : (tailed n).size = n + 1 := by simp [tailed]

theorem getElem?_tailed (hTo : i < n) : (tailed n)[i + 1]? = some 'k' := by
  simp [tailed, hTo]

theorem text_tailed : Span.text ⟨1, n + 1⟩ (tailed n) = List.replicate n 'k' := by
  simp [Span.text_eq, tailed]

/-- The whole of such a text is one token, which starts in front of the word. -/
theorem isToken_tailed (hSome : 0 < n) : IsToken (tailed n) ⟨0, n + 1⟩ := by
  have hLast : (tailed n)[n]? = some 'k' := by
    obtain ⟨k, rfl⟩ := Nat.exists_eq_succ_of_ne_zero (Nat.ne_of_gt hSome)
    exact getElem?_tailed (Nat.lt_succ_self k)
  have run : Run Shape.plain.joins (tailed n) 0 (n + 1) := by
    apply run_of_text (Nat.zero_le _) (Nat.le_of_eq size_tailed.symm)
    rw [← size_tailed, Span.text_zero_size]
    have hLetters : Shape.plain.joins 'b' = true ∧ Shape.plain.joins 'k' = true := by decide
    simp [tailed, hLetters]
  refine ⟨⟨0, n + 1, ⟨run, by simp [charBefore], ?_⟩, .refl 0, .refl _⟩, Nat.succ_pos n, ?_, ?_⟩
  · intro c hChar
    have := (Array.getElem?_eq_some_iff.mp hChar).1
    rw [size_tailed] at this
    omega
  · simp [tailed]
  · rw [charBefore_succ, hLast]
    decide

/-- The term matches all the letters together. -/
theorem Term.Prepared.exists_tailed (ht : Prepared .stretched .default t) (hSome : 0 < n) :
    ∃ c ∈ t.occurrences (tailed n), t.FoundAt (tailed n) c ∧ c.start = 1 ∧ c.stop = n + 1 := by
  have hLetters : t.text.toList = ['k'] := by rw [ht.text]; rfl
  have hRepeated : t.repeated = true := ht.repeated
  have hSeparators : t.separators = false := ht.separators
  have hSize : (tailed n).size = n + 1 := size_tailed
  have spells : Spells t.repeated t.separators t.text.toList (Span.text ⟨1, n + 1⟩ (tailed n)) := by
    rw [hRepeated, hLetters, text_tailed]
    apply Spells.last
    refine ⟨?_, ?_, by simp⟩
    · simpa using Nat.ne_of_gt hSome
    · intro d hd
      rw [(List.mem_replicate.mp hd).2, sameFold_refl]
  obtain ⟨c, hMem, hFrom, hTo⟩ := ht.exists_within rfl (by decide) (by omega) (by omega) spells
  have hWord : ∀ d ∈ t.text.toList, isWord d = true := by
    rw [hLetters]
    exact List.all_eq_true.mp (by decide)
  have found := ht.foundAt rfl (by decide) hWord hMem
  have spells' := found.found.spells
  have hStart : c.start = 1 := by
    by_contra hNot
    have hZero : c.start = 0 := by omega
    have hHead : (Span.text ⟨c.start, c.stop⟩ (tailed n)).head? = some 'b' := by
      rw [Span.head?_text found.lt, hZero]
      simp [tailed]
    obtain ⟨e, he, hSame⟩ := spells'.ends.1 'b' hHead
    rw [hLetters, List.mem_singleton] at he
    rw [he] at hSame
    exact absurd hSame (by decide)
  refine ⟨c, hMem, found, hStart, Nat.le_antisymm (hSize ▸ found.le_size) ?_⟩
  have hExpression : TermOptions.expression .stretched .default =
      .loop true (.set (.letter 'k')) := by
    have hShape : t.shape = .plain := ht.shape.trans (by decide)
    rw [ht.expression_within rfl (by decide), hRepeated, hSeparators, hLetters, hShape]
    rfl
  have letters : Run (CharSet.letter 'k').contains (tailed n) 1 (n + 1) := by
    apply run_of_text (by omega) (Nat.le_of_eq hSize.symm)
    simp [text_tailed, CharSet.contains_letter, sameFold_refl]
  rw [occurrences, ht.program_eq (by decide), hExpression] at hMem
  have hProductive : (loop true (.set (.letter 'k'))).Productive := ⟨trivial, rfl⟩
  obtain ⟨-, way⟩ := prefers_of_mem_findAll hProductive hMem
  rw [hStart] at way
  obtain ⟨-, -, -, hMost⟩ := way.greatest_loop
  exact hMost (n + 1) letters (by omega) trivial

/-- If there are very many, their match stays only if they are allowed themselves. -/
theorem Term.Prepared.exempts_tailed (ht : Prepared .stretched .default t) (hLong : 163840 < n) :
    ∃ c ∈ t.occurrences (tailed n), ∃ m, t.split c = some m ∧ m.content = ⟨1, n + 1⟩ ∧
      ∀ a : AllowList, (a.exempts t m (tailed n) .empty).1 = true ↔
        a.contains (List.replicate n 'k') = true := by
  obtain ⟨c, hMem, found, hStart, hStop⟩ := ht.exists_tailed (Nat.zero_lt_of_lt hLong)
  obtain ⟨m, hSplit, -, hContent, hPart⟩ := found.parts
  rw [hStart, hStop] at hContent hPart
  refine ⟨c, hMem, m, hSplit, hContent, fun a => ?_⟩
  have hText : (m.word (tailed n)).text (tailed n) = List.replicate n 'k' := by
    rw [hPart, text_tailed]
  have hNone : TokenPattern.build (List.replicate n 'k') = none :=
    TokenPattern.build_of_long (by rwa [List.length_replicate])
  have hNonempty : List.replicate n 'k' ≠ [] := by
    simpa using Nat.ne_of_gt (Nat.zero_lt_of_lt hLong)
  rw [AllowList.exempts_empty_iff (ht.method.trans rfl) (by rwa [hText]), hText, hNone]
  simp

theorem AllowList.contains_singleton {l l' : List Char} :
    contains ⟨[String.ofList l], []⟩ l' = true ↔ l' = l := by
  simp [contains, String.ofList_inj]

/-- A very long content keeps the token around it from being looked up. -/
theorem not_forall_exempts_iff_token : ¬∀ (o : TermOptions) (s : Settings) (t : Term)
    (h : Array Char) (c : Captures) (m : MatchParts) (a : AllowList) (token : Span),
    Term.compile o s = .ok t → o.methodIn s = .within → o.shapeIn s = .plain →
    (∀ d ∈ o.text.toList, isWord d = true) → o.separatorsIn s = false →
    s.filterMethod ≠ .remove → c ∈ t.occurrences h → t.split c = some m →
    (∀ d ∈ m.content.text h, d.toNat ≤ 0xFF) → IsToken h token →
    token.start ≤ m.content.start → m.content.stop ≤ token.stop →
    ((a.exempts t m h .empty).1 = true ↔
      a.contains (m.content.text h) = true ∨ a.contains (token.text h) = true) := by
  intro hAll
  obtain ⟨t, ht⟩ := @Term.exists_compile .stretched .default (by decide) (by decide) (by decide)
  obtain ⟨n, hLong⟩ : ∃ n, 163840 < n := ⟨164000, by decide⟩
  obtain ⟨c, hMem, m, hSplit, hContent, hExempts⟩ :=
    (Term.prepared_of_compile ht).exempts_tailed hLong
  have hText : m.content.text (tailed n) = List.replicate n 'k' := by rw [hContent, text_tailed]
  have hToken : Span.text ⟨0, n + 1⟩ (tailed n) = 'b' :: List.replicate n 'k' := by
    rw [← size_tailed, Span.text_zero_size]
    rfl
  have hIff := hAll .stretched .default t (tailed n) c m
    ⟨[String.ofList ('b' :: List.replicate n 'k')], []⟩ ⟨0, n + 1⟩ ht rfl (by decide)
    (List.all_eq_true.mp (by decide)) rfl (by decide) hMem hSplit (by simp [hText])
    (isToken_tailed (Nat.zero_lt_of_lt hLong)) (Nat.zero_le _) (by rw [hContent])
  rw [hExempts, hText, hToken, AllowList.contains_singleton, AllowList.contains_singleton] at hIff
  have hLength := congrArg List.length (hIff.mpr (.inr rfl))
  simp at hLength

end Refused

end Expurgate
