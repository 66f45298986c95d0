import Expurgate.Proofs.Engine.Replay
import Expurgate.Proofs.Term.Around

/-! Words that are allowed keep a term out that matches inside them. -/
namespace Expurgate

open Unicode

namespace AllowList

variable {a : AllowList} {t : Term} {m : MatchParts} {h : Array Char} {cache : TokenCache}

/-- A match in a token that is an allowed word stays. -/
theorem exempts_of_token {word : String} (hAllowed : word ∈ a.caseSensitive)
    (hMethod : t.method = .within) {token : Span}
    (hToken : (cache.enclosing ((m.word h).text h) (m.word h) h).1 = some token)
    (hText : token.text h = word.toList) : (a.exempts t m h cache).1 = true := by
  have hSome : a.isEmpty = false := by
    cases hList : a.caseSensitive with
    | nil => simp [hList] at hAllowed
    | cons => simp [isEmpty, hList]
  have hContains : a.contains (token.text h) = true := by
    simp [AllowList.contains, hText, hAllowed]
  simp only [exempts, hSome, hMethod, Bool.false_eq_true, if_false, if_true]
  split
  · rfl
  · rename_i hOther
    have hNe : token.text h ≠ (m.word h).text h := by
      intro hSame
      rw [hSame] at hContains
      exact hOther hContains
    simp [hToken, hNe, hContains]

/-- A match is exempt only if some allowed word begins with it or in front of it. -/
theorem not_exempts (hNone : ∀ s : Span, s.start ≤ (m.word h).start →
    a.contains (s.text h) = false) : (a.exempts t m h cache).1 = false := by
  have hWord := hNone (m.word h) (Nat.le_refl _)
  simp only [exempts, hWord, Bool.false_eq_true, if_false]
  split
  · rfl
  · split
    · cases hToken : (cache.enclosing ((m.word h).text h) (m.word h) h).1 with
      | none => rfl
      | some s => simp [hNone s (TokenCache.enclosing_bounds hToken).1]
    · rfl

/-- A verdict builds at most the pattern of the word it is asked about, so a cache for the words
with `P` stays one. The word that is asked about is not empty here. -/
theorem exempts_builtFor {P : List Char → Prop} (hBuilt : cache.BuiltFor P)
    (hWord : P ((m.word h).text h)) (hNonempty : (m.word h).text h ≠ []) :
    (a.exempts t m h cache).2.BuiltFor P := by
  simp only [exempts]
  split
  · exact hBuilt
  · split
    · exact hBuilt
    · split
      · exact (hBuilt.enclosing hWord hNonempty (m.word h) h).1
      · exact hBuilt

end AllowList

section Pass

variable {ctx : PassContext} {t : Term} {h : Array Char}

/-- Resolving a match asks the allow list about nothing but the match, so every pattern that is
built by then is for an occurrence of the term in the text. -/
theorem resolve_builtFor {c : Captures} (found : t.FoundAt h c) {cache : TokenCache}
    (hBuilt : cache.BuiltFor (Found t.repeated t.separators t.text.toList h)) :
    (resolve ctx t h c cache).2.BuiltFor (Found t.repeated t.separators t.text.toList h) := by
  obtain ⟨m, hSplit, -, -, hPart⟩ := found.parts
  have hNonempty := Span.text_ne_nil found.lt found.le_size
  simp only [resolve, hSplit]
  split
  · exact hBuilt
  · split
    all_goals
      apply AllowList.exempts_builtFor hBuilt
      · rw [hPart]
        exact found.found
      · rw [hPart]
        exact hNonempty

end Pass

/-- The patterns for the parts of a word, in any case, are small enough to be built. -/
def Buildable (word : List Char) : Prop :=
  ∀ part other, part <:+: word → FoldEq other part → (TokenPattern.build other).isSome = true

/-- Words of 600 characters are far below the size limit of a program. The bound is not exact, and
serves to show that the limit is out of reach of ordinary words. -/
theorem buildable_of_length_le {word : List Char} (hShort : word.length ≤ 600) :
    Buildable word := by
  intro part other hPart hEq
  have hLength := hEq.length_eq
  have := hPart.length_le
  exact TokenPattern.isSome_build_of_length_le (by omega)

/-- A part of a whole word consists of word characters, so a match that is such a part does not need
the allow list to look past it. -/
theorem Delimited.isWord_of_within {h : Array Char} {i j : Nat} {l word : List Char}
    (hDelimited : Delimited h i j) (hText : Span.text ⟨i, j⟩ h = word) (hWithin : l <:+: word) :
    ∀ d ∈ l, isWord d = true := by
  intro d hd
  apply hDelimited.word.forall_text
  rw [hText]
  exact hWithin.subset hd

section Spared

variable {ctx : PassContext} {t : Term} {h : Array Char} {c : Captures} {W : String} {i j : Nat}
  (hMethod : t.method = .within) (hWithin : t.text.toList <:+: W.toList)
  (hAllowed : W ∈ ctx.allowList.caseSensitive) (hBuild : Buildable W.toList)
  (hDelimited : Delimited h i j) (hText : Span.text ⟨i, j⟩ h = W.toList)
  (hReach : Reachable t.repeated t.separators t.text.toList h i)
include hMethod hWithin hAllowed hBuild hDelimited hText hReach

/-- A match within an allowed word stays, whatever patterns are in the cache. -/
theorem resolve_spares (found : t.FoundAt h c) (hLeft : i ≤ c.start) (hRight : c.stop ≤ j)
    {cache : TokenCache}
    (hBuilt : cache.BuiltFor (Found t.repeated t.separators t.text.toList h)) :
    (resolve ctx t h c cache).1.match? = none := by
  have hLess := found.lt
  have hWord := hDelimited.isWord_of_within hText hWithin
  have hParts : ∀ word, FoldEq word (Span.text ⟨c.start, c.stop⟩ h) →
      (TokenPattern.build word).isSome = true := by
    intro word hEq
    refine hBuild _ word ⟨Span.text ⟨i, c.start⟩ h, Span.text ⟨c.stop, j⟩ h, ?_⟩ hEq
    rw [Span.text_append hLeft (Nat.le_of_lt hLess), Span.text_append (by omega) hRight, hText]
  have hToken := hBuilt.enclosing_of_found hDelimited hLeft hRight hLess hWord hReach found.found
    hParts
  obtain ⟨m, hSplit, -, -, hPart⟩ := found.parts
  rw [← hPart] at hToken
  exact resolve_exempt hSplit (AllowList.exempts_of_token hAllowed hMethod hToken hText)

/-- The matches that a term's turn reports are none of those within the word. -/
theorem pass_spares (found : ∀ c ∈ t.occurrences h, t.FoundAt h c) :
    ∀ record ∈ (t.pass ctx h .empty).1.matched, ∃ c, t.FoundAt h c ∧
      record.start = byteOffset h c.start ∧ record.stop = byteOffset h c.stop ∧
      ¬(i ≤ c.start ∧ c.stop ≤ j) := by
  intro record hRecord
  obtain ⟨_, hDecided, hMatch⟩ := List.mem_filterMap.mp hRecord
  obtain ⟨r, hr, rfl⟩ := List.mem_map.mp hDecided
  obtain ⟨c, hc, s, cache, hBuilt, hResult⟩ := exists_of_mem_resolveAll
    (fun c hc _ hBuilt => resolve_builtFor (found c hc) hBuilt) TokenCache.builtFor_empty r hr
  rw [hResult] at hMatch
  obtain ⟨m, hSplit, hRaw, -, -⟩ := (found c hc).parts
  obtain ⟨hStart, hStop⟩ := resolve_offsets hSplit hMatch
  rw [hRaw] at hStart hStop
  refine ⟨c, found c hc, hStart, hStop, ?_⟩
  intro hInside
  rw [@resolve_spares (ctx.choosing s) t h c W i j hMethod hWithin hAllowed hBuild hDelimited hText
    hReach (found c hc) hInside.1 hInside.2 cache hBuilt] at hMatch
  cases hMatch

/-- In bytes, no reported match lies within the word. If the term has no separators, none touches
the word at all. -/
theorem pass_apart (found : ∀ c ∈ t.occurrences h, t.FoundAt h c) :
    ∀ record ∈ (t.pass ctx h .empty).1.matched,
      ¬(byteOffset h i ≤ record.start ∧ record.stop ≤ byteOffset h j) ∧
      (t.separators = false → record.stop ≤ byteOffset h i ∨ byteOffset h j ≤ record.start) := by
  intro record hRecord
  obtain ⟨c, foundAt, hStart, hStop, hOutside⟩ :=
    pass_spares hMethod hWithin hAllowed hBuild hDelimited hText hReach found record hRecord
  have hij := hDelimited.lt
  have hTo := hDelimited.le_size
  have hLess := foundAt.lt
  have hSize := foundAt.le_size
  rw [hStart, hStop]
  constructor
  · rintro ⟨hFrom, hUpTo⟩
    apply hOutside
    constructor
    · by_contra hEarlier
      have := byteOffset_lt (h := h) (i := c.start) (j := i) (by omega) (by omega)
      omega
    · by_contra hLater
      have := byteOffset_lt (h := h) (i := j) (j := c.stop) (by omega) (by omega)
      omega
  · intro hSeparators
    have run : Regex.Run (!isSpace ·) h c.start c.stop := by
      refine Regex.run_of_text (Nat.le_of_lt hLess) hSize fun d hd => ?_
      rcases foundAt.found.spells.mem_cases d hd with ⟨e, he, hSame⟩ | ⟨hOn, -⟩
      · have hWord := hDelimited.isWord_of_within hText hWithin e he
        rw [isSpace_of_isWord ((isWord_of_sameFold hSame).symm.trans hWord)]
        rfl
      · rw [hSeparators] at hOn
        cases hOn
    rcases Nat.lt_or_ge c.start j with hBefore | hBehind
    · rcases Nat.lt_or_ge i c.stop with hReached | hAhead
      · exact absurd (hDelimited.within_of_run run hSize hBefore hReached) hOutside
      · exact .inl (byteOffset_le hAhead)
    · exact .inr (byteOffset_le hBehind)

end Spared

namespace Config

/-- Terms that fail to compile are dropped, and none is added. -/
theorem length_freshSet_le (c : Config) (profile : ProfileId) :
    (c.freshSet profile).terms.length ≤ c.terms.length := by
  rw [freshSet]
  split
  · refine Nat.le_trans (List.length_filterMap_le _ _) ?_
    rw [TermSet.compiled, List.length_map, TermSet.candidates, List.length_mergeSort]
    exact List.length_filter_le _ _
  · exact Nat.zero_le _

end Config

namespace Engine

/-- Where one term is configured all reported matches are from its turn. -/
theorem matched_of_single {e : Engine} (hCoherent : e.Coherent) {o : TermOptions}
    (hTerms : e.config.terms = [o]) (text : String) (profile : ProfileId) (record : Bool) :
    let matched := (e.expurgate text profile record).1.outcome.matched
    matched = [] ∨ ∃ t, Term.Prepared o e.config.settings t ∧
      matched = (t.pass e.context text.toList.toArray .empty).1.matched := by
  intro matched
  have hOutcome := outcome_expurgate e text profile record
  by_cases hIdle : e.config.settings.filterMethod = .off ∨ text = ""
  · rw [if_pos hIdle] at hOutcome
    exact .inl (congrArg Outcome.matched hOutcome)
  · rw [if_neg hIdle, hCoherent.termSet_set] at hOutcome
    have hMatched : matched = (passes e.context
        (e.config.freshSet (e.config.resolve profile)).terms text.toList.toArray .empty).matched :=
      congrArg Outcome.matched hOutcome
    have hPrepared := e.config.prepared_of_mem_freshSet (e.config.resolve profile)
    have hLength := e.config.length_freshSet_le (e.config.resolve profile)
    rw [hTerms, List.length_singleton] at hLength
    rcases hSet : (e.config.freshSet (e.config.resolve profile)).terms with _ | ⟨t, _ | ⟨u, rest⟩⟩
    · rw [hSet] at hMatched
      exact .inl hMatched
    · obtain ⟨o', hMem, ht⟩ := hPrepared t (by simp [hSet])
      rw [hTerms, List.mem_singleton] at hMem
      subst hMem
      refine .inr ⟨t, ht, ?_⟩
      rw [hMatched, hSet]
      simp [passes]
    · rw [hSet] at hLength
      simp at hLength

/-- A word that is allowed in this case is safe from a term that is a part of it and matches inside
words: no reported match lies within the word, and none touches it if the term has no separators.
The word must stand between white space or ends of the text, and the token search must be sure to
reach it. -/
theorem expurgate_spares_allowed (c : Config) (selector : Selector) (before : List Operation)
    (text : String) (profile : ProfileId) (record : Bool) {o : TermOptions} {W : String}
    {i j : Nat} :
    let current := c.after before
    let s := current.settings
    let h := text.toList.toArray
    let outcome := (((new c selector).after before).expurgate text profile record).1.outcome
    current.terms = [o] → o.methodIn s = .within → s.filterMethod ≠ .remove →
    W ∈ current.allowList.caseSensitive → o.text.toList <:+: W.toList → Buildable W.toList →
    Delimited h i j → Span.text ⟨i, j⟩ h = W.toList →
    Reachable (o.repeatedIn s) (o.separatorsIn s) o.text.toList h i →
    ∀ m ∈ outcome.matched, ¬(byteOffset h i ≤ m.start ∧ m.stop ≤ byteOffset h j) ∧
      (o.separatorsIn s = false → m.stop ≤ byteOffset h i ∨ byteOffset h j ≤ m.start) := by
  intro current s h outcome hTerms hMethod hKeep hAllowed hWithin hBuild hDelimited hText hReach
  let e := (new c selector).after before
  have hCoherent : e.Coherent := (Coherent.new c selector).after before
  have hConfig : e.config = current := config_after (new c selector) before
  have hList : e.context.allowList.caseSensitive = current.allowList.caseSensitive := by
    rw [context, hCoherent.allowList, hConfig]
    rfl
  rcases matched_of_single hCoherent (by rwa [hConfig]) text profile record with
    hNone | ⟨t, ht, hMatched⟩
  · have hEmpty : outcome.matched = [] := hNone
    simp [hEmpty]
  · rw [hConfig] at ht
    have hSame : outcome.matched = _ := hMatched
    have hPart : t.text.toList <:+: W.toList := by rwa [ht.text]
    have hWord := hDelimited.isWord_of_within hText hPart
    have hApart := @pass_apart e.context t h W i j (ht.method.trans hMethod) hPart
      (by rwa [hList]) hBuild hDelimited hText
      (by rwa [ht.repeated, ht.separators, ht.text])
      fun _ hMem => ht.foundAt hMethod hKeep hWord hMem
    rw [ht.separators] at hApart
    rw [hSame]
    exact hApart

end Engine

/-- A configuration that allows a Cyrillic word which its term is a part of. -/
def Config.cyrillic : Config :=
  { Config.empty with
    terms := [(TermOptions.ofText "бля").withMethod .within]
    allowList := ⟨["заблять"], []⟩ }

namespace Engine

/-- The word is found behind another one, so the term does not touch it. -/
theorem expurgate_spares_allowed_cyrillic :
    let outcome := ((new .cyrillic (.fixed 0)).expurgate "мы заблять" .all false).1.outcome
    FreeBefore false false "бля".toList "мы заблять".toList.toArray 3 ∧
      ∀ m ∈ outcome.matched, ¬(5 ≤ m.start ∧ m.stop ≤ 19) ∧ (m.stop ≤ 5 ∨ 19 ≤ m.start) := by
  intro outcome
  have hFree : FreeBefore false false "бля".toList "мы заблять".toList.toArray 3 := by
    intro k x y run token hy spells
    have hLong := spells.length_le
    have hLe := run.le
    have hThree : "бля".toList.length = 3 := rfl
    have hSize : "мы заблять".toList.toArray.size = 10 := rfl
    rw [Span.length_text (by omega), hThree] at hLong
    -- Only a stretch from the beginning is long enough, and it holds the white space.
    obtain ⟨d, hChar, hKind⟩ := token.each 2 (by omega) (by omega)
    obtain rfl : ' ' = d := Option.some.inj hChar
    revert hKind
    decide
  have hDelimited : Delimited "мы заблять".toList.toArray 3 10 :=
    ⟨by decide, by decide, Regex.run_of_text (by decide) (by decide)
      (List.all_eq_true.mp (by decide)),
      .inr ⟨' ', by decide, by decide⟩, .inl rfl⟩
  have hSpared := @expurgate_spares_allowed .cyrillic (.fixed 0) [] "мы заблять" .all false
    ((TermOptions.ofText "бля").withMethod .within) "заблять" 3 10 rfl rfl (by decide)
    (List.mem_singleton.mpr rfl) ⟨['з', 'а'], ['т', 'ь'], by decide⟩
    (buildable_of_length_le (by decide)) hDelimited (by decide) (.inr ⟨hFree, .inl (by decide)⟩)
  have hFrom : byteOffset "мы заблять".toList.toArray 3 = 5 := by decide
  have hTo : byteOffset "мы заблять".toList.toArray 10 = 19 := by decide
  refine ⟨hFree, fun m hm => ?_⟩
  have hApart := hSpared m hm
  rw [hFrom, hTo] at hApart
  exact ⟨hApart.1, hApart.2 rfl⟩

end Engine

/-- A term that allows separators between its characters. -/
def TermOptions.spaced : TermOptions :=
  { TermOptions.ofText "ab" with
    matchMethod := some .within
    separators := some true }

/-- A configuration that allows a word which the term is a part of. -/
def Config.straddled : Config :=
  { Config.empty with
    terms := [.spaced]
    allowList := ⟨["bab"], []⟩ }

/-- In the text "a bab" the term matches from the first character into the allowed word. -/
theorem Term.Prepared.exists_straddling {t : Term}
    (ht : Prepared .spaced .default t) {h : Array Char} (hText : h.toList = "a bab".toList) :
    ∃ c ∈ t.occurrences h, t.FoundAt h c ∧ c.start = 0 ∧ 2 < c.stop := by
  obtain rfl : h = "a bab".toList.toArray := by
    rw [← hText]
  have hRepeated : t.repeated = false := ht.repeated
  have hSeparators : t.separators = true := ht.separators
  have hLetters : t.text.toList = ['a', 'b'] := by
    rw [ht.text]
    rfl
  have hWord : ∀ d ∈ t.text.toList, isWord d = true := by
    rw [hLetters]
    exact List.all_eq_true.mp (by decide)
  have hSpells : Spells t.repeated t.separators t.text.toList
      (Span.text ⟨0, 3⟩ "a bab".toList.toArray) := by
    rw [hLetters, hSeparators]
    exact @Spells.cons _ _ 'a' 'b' [] ['a'] [' '] ['b'] (.self _ _) (by simp [isSeparator])
      (.last (.self _ _))
  obtain ⟨c, hMem, hFrom, hTo⟩ := ht.exists_within rfl (by decide) (by decide) (by decide) hSpells
  have found := ht.foundAt rfl (by decide) hWord hMem
  have hStart : c.start = 0 := Nat.le_zero.mp hFrom
  refine ⟨c, hMem, found, hStart, ?_⟩
  by_contra hShort
  have spells := found.found.spells
  have hLong := spells.length_le
  rw [Span.length_text found.le_size, hLetters, List.length_cons, List.length_singleton] at hLong
  have hStop : c.stop = 2 := by omega
  -- The two characters "a " do not spell the term, since a separator is no letter of it.
  rw [hStart, hStop, hLetters] at spells
  obtain ⟨e, he, hSame⟩ := spells.ends.2 ' ' rfl
  rcases List.mem_pair.mp he with rfl | rfl <;> revert hSame <;> decide

theorem Config.freshSet_straddled {t : Term} (hCompile : Term.compile .spaced .default = .ok t) :
    (Config.straddled.freshSet .all).terms = [t] := by
  have hSettings : Config.straddled.settings = .default := rfl
  have hCandidates : TermSet.candidates .straddled .all = [.spaced] :=
    List.mergeSort_singleton _
  simp only [freshSet, checkProfile, TermSet.build, TermSet.compiled, hSettings, hCandidates,
    List.map_cons, List.map_nil, hCompile]
  rfl

/-- No text from the beginning of "a bab" on is allowed. -/
theorem AllowList.not_contains_straddled (stop : Nat) :
    AllowList.contains ⟨["bab"], []⟩ (Span.text ⟨0, stop⟩ "a bab".toList.toArray) = false := by
  have hNe : Span.text ⟨0, stop⟩ "a bab".toList.toArray ≠ "bab".toList := by
    intro hSame
    rcases Nat.eq_zero_or_pos stop with rfl | hPos
    · rw [Span.text_self] at hSame
      cases hSame
    · have hFirst := Span.getElem?_text (h := "a bab".toList.toArray) (p := 0) (q := stop) 0 hPos
      rw [hSame] at hFirst
      revert hFirst
      decide
  generalize Span.text ⟨0, stop⟩ "a bab".toList.toArray = text at hNe ⊢
  have hOther : String.ofList text ≠ "bab" := by
    intro hSame
    exact hNe (by rw [← hSame, String.toList_ofList])
  simp [AllowList.contains, hOther]

namespace Engine

/-- With separators a match may begin in front of an allowed word and end in it. No token is the
word then, and the match is replaced. -/
theorem not_forall_expurgate_apart : ¬∀ (c : Config) (selector : Selector) (text : String)
    (profile : ProfileId) (record : Bool) (o : TermOptions) (W : String) (i j : Nat),
    let h := text.toList.toArray
    let outcome := ((new c selector).expurgate text profile record).1.outcome
    c.terms = [o] → o.methodIn c.settings = .within →
    (c.settings.filterMethod = .censor ∨ c.settings.filterMethod = .substitute) →
    W ∈ c.allowList.caseSensitive → (∀ d ∈ W.toList, isWord d = true) →
    o.text.toList <:+: W.toList → Delimited h i j → Span.text ⟨i, j⟩ h = W.toList →
    ∀ m ∈ outcome.matched, m.stop ≤ byteOffset h i ∨ byteOffset h j ≤ m.start := by
  intro hAll
  let h := "a bab".toList.toArray
  let e := new .straddled (.fixed 0)
  have hDelimited : Delimited h 2 5 :=
    ⟨by decide, by decide, Regex.run_of_text (by decide) (by decide)
      (List.all_eq_true.mp (by decide)),
      .inr ⟨' ', by decide, by decide⟩, .inl rfl⟩
  have hClaim := hAll .straddled (.fixed 0) "a bab" .all false .spaced "bab" 2 5 rfl rfl
    (by decide) (by decide) (List.all_eq_true.mp (by decide)) ⟨['b'], [], rfl⟩ hDelimited
    rfl
  obtain ⟨t, hCompile⟩ := @Term.exists_compile .spaced .default (by decide) (by decide) (by decide)
  obtain ⟨c, hMem, found, hStart, hLong⟩ :=
    (Term.prepared_of_compile hCompile).exists_straddling (h := h) rfl
  have hMatched : (e.expurgate "a bab" .all false).1.outcome.matched =
      (t.pass e.context h .empty).1.matched := by
    rw [outcome_expurgate, if_neg (by decide), (Coherent.new _ _).termSet_set]
    change (passes e.context (Config.straddled.freshSet .all).terms h .empty).matched = _
    rw [Config.freshSet_straddled hCompile]
    simp [passes]
  obtain ⟨m, hSplit, hRaw, hContent, hPart⟩ := found.parts
  have hNone : ∀ s : Span, s.start ≤ (m.word h).start →
      e.context.allowList.contains (s.text h) = false := by
    intro s hs
    rw [hPart, hStart] at hs
    obtain ⟨first, stop⟩ := s
    obtain rfl : first = 0 := Nat.le_zero.mp hs
    exact AllowList.not_contains_straddled stop
  obtain ⟨s, hRecord⟩ := @mem_matched_pass e.context t h .empty c hMem m hSplit
    (by rw [hContent]; exact Span.text_ne_nil found.lt found.le_size)
    fun _ => AllowList.not_exempts hNone
  rw [← hMatched] at hRecord
  rcases hClaim _ hRecord with hBefore | hBehind
  · have := byteOffset_lt hLong found.le_size
    rw [PassContext.record_stop, hRaw] at hBefore
    exact Nat.not_le_of_lt this hBefore
  · rw [PassContext.record_start, hRaw, hStart] at hBehind
    exact Nat.not_le_of_lt (byteOffset_lt (h := h) (i := 0) (j := 5) (by decide) (by decide)) hBehind

end Engine

end Expurgate
