import Expurgate.Engine.Pass
import Expurgate.Proofs.Term.Span

/-! What becomes of the matches in a term's turn. They are decided upon one after another, each with
the cache and the selector that the ones before it left. Which matches are replaced does not depend
on the selector, only what they are replaced by. -/
namespace Expurgate

/-- What is told of a match that is replaced. -/
def PassContext.record (ctx : PassContext) (t : Term) (h : Array Char) (m : MatchParts) :
    TermMatch where
  key := t.text
  found := String.ofList (m.content.text h)
  replacement := String.ofList (ctx.replacer.replacement t m h)
  start := byteOffset h m.raw.start
  stop := byteOffset h m.raw.stop

section Record

variable (ctx : PassContext) (t : Term) (h : Array Char) (m : MatchParts)

@[simp]
theorem PassContext.record_start : (ctx.record t h m).start = byteOffset h m.raw.start := rfl

@[simp]
theorem PassContext.record_stop : (ctx.record t h m).stop = byteOffset h m.raw.stop := rfl

end Record

section Resolve

variable {ctx : PassContext} {t : Term} {h : Array Char} {c : Captures} {m : MatchParts}

/-- A match with a content is replaced unless it is exempt. -/
theorem resolve_replaced {cache : TokenCache} (hSplit : t.split c = some m)
    (hContent : m.content.text h ≠ []) (hExempt : (ctx.allowList.exempts t m h cache).1 = false) :
    (resolve ctx t h c cache).1.match? = some (ctx.record t h m) := by
  have hFull : (m.content.text h).isEmpty = false := by simpa using hContent
  simp only [resolve, hSplit, hFull, hExempt]
  rfl

/-- An exempt match is not reported, and only the log tells of it. -/
theorem resolve_exempt {cache : TokenCache} (hSplit : t.split c = some m)
    (hExempt : (ctx.allowList.exempts t m h cache).1 = true) :
    (resolve ctx t h c cache).1.match? = none := by
  simp only [resolve, hSplit, hExempt]
  split <;> rfl

/-- A record tells where the match lies in the text as the pass found it, in bytes. -/
theorem resolve_offsets {cache : TokenCache} (hSplit : t.split c = some m) {record : TermMatch}
    (hRecord : (resolve ctx t h c cache).1.match? = some record) :
    record.start = byteOffset h m.raw.start ∧ record.stop = byteOffset h m.raw.stop := by
  simp only [resolve, hSplit] at hRecord
  split at hRecord
  · cases hRecord
  · split at hRecord
    · cases hRecord
    · obtain rfl := Option.some.inj hRecord
      exact ⟨rfl, rfl⟩

/-- Whether a match is replaced is up to the words that are allowed, and so is what is kept in the
cache. -/
theorem resolve_congr (ctx ctx' : PassContext) (t : Term) (h : Array Char) (c : Captures)
    (hAllowed : ctx.allowList = ctx'.allowList) (cache : TokenCache) :
    (resolve ctx t h c cache).2 = (resolve ctx' t h c cache).2 ∧
      (resolve ctx t h c cache).1.match?.isSome = (resolve ctx' t h c cache).1.match?.isSome := by
  cases hSplit : t.split c with
  | none => simp only [resolve, hSplit, and_self]
  | some m =>
      simp only [resolve, hSplit, hAllowed]
      split
      · exact ⟨rfl, rfl⟩
      · split <;> exact ⟨rfl, rfl⟩

/-- A choice goes with a match that is replaced, among the candidates of its term. -/
theorem choices_resolve (ctx : PassContext) (t : Term) (h : Array Char) (c : Captures)
    (cache : TokenCache) : (resolve ctx t h c cache).1.choices =
      if (resolve ctx t h c cache).1.match?.isSome then ctx.replacer.choices t else 0 := by
  cases hSplit : t.split c with
  | none =>
      simp only [resolve, hSplit]
      rfl
  | some m =>
      simp only [resolve, hSplit]
      split
      · rfl
      · split <;> rfl

end Resolve

/-- The replacer for what comes behind a match of a term that it replaced. -/
def Replacer.after (r : Replacer) (t : Term) : Replacer :=
  r.choosing (r.selector.after (r.choices t))

/-- The replacer for what comes behind several matches of a term that it replaced. -/
def Replacer.afterAll (r : Replacer) (t : Term) (group : List TermMatch) : Replacer :=
  group.foldl (fun r _ => r.after t) r

/-- Choices change nothing about the settings. -/
theorem Replacer.settings_afterAll (r : Replacer) (t : Term) (group : List TermMatch) :
    (r.afterAll t group).settings = r.settings := by
  induction group generalizing r with
  | nil => rfl
  | cons m rest ih => exact ih (r.after t)

/-- A choice is made for each match that is replaced, and for no other. -/
theorem replacer_after_resolve (ctx : PassContext) (t : Term) (h : Array Char) (c : Captures)
    (cache : TokenCache) : (ctx.after [(resolve ctx t h c cache).1]).replacer =
      if (resolve ctx t h c cache).1.match?.isSome then ctx.replacer.after t else ctx.replacer := by
  have hAfter : (ctx.after [(resolve ctx t h c cache).1]).replacer = ctx.replacer.choosing
      (ctx.replacer.selector.after (resolve ctx t h c cache).1.choices) := rfl
  rw [hAfter, choices_resolve]
  split
  · rfl
  · rw [Selector.after_of_le_one _ (Nat.zero_le 1)]
    rfl

section Choices

variable {r : Replacer}

/-- Only a term that is substituted gives something to choose. -/
theorem Replacer.choices_of_method (hMethod : r.settings.filterMethod ≠ .substitute) (t : Term) :
    r.choices t ≤ 1 := by
  rw [choices, if_neg hMethod]
  exact Nat.zero_le 1

/-- With one word or none there is nothing to choose, whatever the method of the filter. -/
theorem Replacer.choices_of_single {t : Term} (hSingle : t.substitutions.length ≤ 1)
    (r : Replacer) : r.choices t ≤ 1 := by
  rw [choices]
  split
  · exact hSingle
  · exact Nat.zero_le 1

/-- Where there is no choice, it does not matter who chooses. -/
theorem Replacer.replacement_congr (r r' : Replacer) (hSettings : r.settings = r'.settings)
    {t : Term} (hFew : r.choices t ≤ 1) (m : MatchParts) (h : Array Char) :
    r.replacement t m h = r'.replacement t m h := by
  by_cases hMethod : r.settings.filterMethod = .substitute
  · rw [choices, if_pos hMethod] at hFew
    have hFirst (n : Nat) : min n (t.substitutions.length - 1) = 0 := by omega
    have hCandidate : r.candidate t = r'.candidate t := by
      rw [candidate, candidate, hFirst, hFirst, hSettings]
    simp only [replacement, substitute, hCandidate, ← hSettings, hMethod]
  · cases hOther : r.settings.filterMethod with
    | substitute => exact absurd hOther hMethod
    | _ => simp only [replacement, censor, ← hSettings, hOther]

/-- Nothing is left to choose for the matches of a term, or the choice is always the same. -/
def Replacer.Steady (r : Replacer) (t : Term) : Prop :=
  r.choices t ≤ 1 ∨ ∃ index, r.selector = .fixed index

end Choices

section Steady

variable {ctx : PassContext} {t : Term}

/-- Where nothing is to be chosen, a decision leaves the choices as they were. -/
theorem Replacer.Steady.after_eq {r : Replacer} (steady : r.Steady t) : r.after t = r := by
  have hSame : r.selector.after (r.choices t) = r.selector := by
    rcases steady with hFew | ⟨index, hFixed⟩
    · exact r.selector.after_of_le_one hFew
    · rw [hFixed, Selector.after_fixed]
  rw [after, hSame]
  rfl

/-- Where nothing is left to choose, a decision leaves the context as it is. -/
theorem after_of_steady (steady : ctx.replacer.Steady t) (h : Array Char) (c : Captures)
    (cache : TokenCache) : ctx.after [(resolve ctx t h c cache).1] = ctx := by
  have hReplacer := replacer_after_resolve ctx t h c cache
  rw [steady.after_eq, ite_self] at hReplacer
  calc ctx.after [(resolve ctx t h c cache).1]
      = ⟨ctx.allowList, (ctx.after [(resolve ctx t h c cache).1]).replacer⟩ := rfl
    _ = ctx := by rw [hReplacer]

end Steady

section ResolveAll

variable {ctx : PassContext} {t : Term} {h : Array Char} {cs : List Captures}

/-- Each match is decided upon, with some cache and some selector. -/
theorem mem_resolveAll {c : Captures} (hMem : c ∈ cs) (cache : TokenCache) :
    ∃ s cache', (⟨c.start, c.stop⟩, (resolve (ctx.choosing s) t h c cache').1) ∈
      (resolveAll ctx t h cs cache).1 := by
  induction cs generalizing ctx cache with
  | nil => simp at hMem
  | cons d rest ih =>
      simp only [resolveAll]
      rcases List.mem_cons.mp hMem with rfl | hLater
      · exact ⟨ctx.replacer.selector, cache, List.mem_cons_self⟩
      · obtain ⟨s, cache', hResult⟩ :=
          @ih (ctx.after [(resolve ctx t h d cache).1]) hLater (resolve ctx t h d cache).2
        exact ⟨s, cache', List.mem_cons_of_mem _ hResult⟩

/-- What holds of the first cache, and of the cache after each match, holds of every cache that a
match is decided upon with. -/
theorem exists_of_mem_resolveAll {I : TokenCache → Prop}
    (hStep : ∀ c ∈ cs, ∀ cache, I cache → I (resolve ctx t h c cache).2) {cache : TokenCache}
    (hFirst : I cache) : ∀ r ∈ (resolveAll ctx t h cs cache).1,
      ∃ c ∈ cs, ∃ s cache', I cache' ∧ r.2 = (resolve (ctx.choosing s) t h c cache').1 := by
  induction cs generalizing ctx cache with
  | nil => simp [resolveAll]
  | cons c rest ih =>
      intro r hr
      simp only [resolveAll] at hr
      rcases List.mem_cons.mp hr with rfl | hLater
      · exact ⟨c, List.mem_cons_self, ctx.replacer.selector, cache, hFirst, rfl⟩
      · let next := ctx.after [(resolve ctx t h c cache).1]
        have hNext : ∀ d ∈ rest, ∀ cache, I cache → I (resolve next t h d cache).2 := by
          intro d hd cache hCache
          rw [(resolve_congr next ctx t h d rfl cache).1]
          exact hStep d (List.mem_cons_of_mem _ hd) cache hCache
        obtain ⟨c', hc', s, cache', hCache', hResult⟩ :=
          ih hNext (hStep c List.mem_cons_self cache hFirst) r hLater
        exact ⟨c', List.mem_cons_of_mem _ hc', s, cache', hCache', hResult⟩

/-- A match that cannot be exempt is among those the turn reports. -/
theorem mem_matched_pass {cache : TokenCache} {c : Captures} (hMem : c ∈ t.occurrences h)
    {m : MatchParts} (hSplit : t.split c = some m) (hContent : m.content.text h ≠ [])
    (hExempt : ∀ cache', (ctx.allowList.exempts t m h cache').1 = false) :
    ∃ s, (ctx.choosing s).record t h m ∈ (t.pass ctx h cache).1.matched := by
  obtain ⟨s, cache', hResult⟩ := @mem_resolveAll ctx t h _ c hMem cache
  exact ⟨s, List.mem_filterMap.mpr
    ⟨_, List.mem_map_of_mem hResult, resolve_replaced hSplit hContent (hExempt cache')⟩⟩

end ResolveAll

section Few

variable {ctx : PassContext} {t : Term} {terms : List Term} {h : Array Char} {cache : TokenCache}

/-- The choices of a turn are among the candidates of its term. -/
theorem choices_le_of_mem_pass :
    ∀ r ∈ (t.pass ctx h cache).1.decided, r.choices ≤ ctx.replacer.choices t := by
  intro r hr
  obtain ⟨d, hd, rfl⟩ := List.mem_map.mp hr
  obtain ⟨c, -, s, cache', -, hResult⟩ :=
    exists_of_mem_resolveAll (I := fun _ => True) (fun _ _ _ _ => trivial) trivial d hd
  rw [hResult, choices_resolve]
  split
  · exact Nat.le_refl _
  · exact Nat.zero_le _

/-- A turn that leaves nothing to choose leaves the context as it is. -/
theorem after_pass_of_few (hFew : ctx.replacer.choices t ≤ 1) :
    ctx.after (t.pass ctx h cache).1.decided = ctx := by
  rw [PassContext.after, Selector.afterAll_of_le_one]
  · rfl
  · exact fun r hr => Nat.le_trans (choices_le_of_mem_pass r hr) hFew

/-- Where there is no choice, it does not matter who chooses. -/
theorem resolveAll_congr (ctx ctx' : PassContext) (hAllowed : ctx.allowList = ctx'.allowList)
    (hSettings : ctx.replacer.settings = ctx'.replacer.settings)
    (hFew : ctx.replacer.choices t ≤ 1) (cs : List Captures) :
    resolveAll ctx t h cs cache = resolveAll ctx' t h cs cache := by
  have hChoices : ctx.replacer.choices t = ctx'.replacer.choices t := by
    rw [Replacer.choices, Replacer.choices, hSettings]
  have hReplacement (m : MatchParts) :
      ctx.replacer.replacement t m h = ctx'.replacer.replacement t m h :=
    Replacer.replacement_congr _ _ hSettings hFew m h
  have hResolve (c : Captures) (cache : TokenCache) :
      resolve ctx t h c cache = resolve ctx' t h c cache := by
    simp only [resolve, hAllowed, hReplacement, hChoices]
  induction cs generalizing cache with
  | nil => rfl
  | cons c rest ih =>
      have hSame : ctx.after [(resolve ctx t h c cache).1] = ctx := after_of_steady (.inl hFew) ..
      have hSame' : ctx'.after [(resolve ctx' t h c cache).1] = ctx' :=
        after_of_steady (.inl (hChoices ▸ hFew)) ..
      rw [hResolve] at hSame
      simp only [resolveAll, hResolve, hSame, hSame', ih]

/-- The passes of two contexts agree when their settings and their words do and no term has two
words to choose from. The choices themselves may differ then. -/
theorem passes_congr (ctx ctx' : PassContext) (hAllowed : ctx.allowList = ctx'.allowList)
    (hSettings : ctx.replacer.settings = ctx'.replacer.settings)
    (hFew : ∀ t ∈ terms, ctx.replacer.choices t ≤ 1) :
    passes ctx terms h cache = passes ctx' terms h cache := by
  induction terms generalizing h cache with
  | nil => rfl
  | cons t rest ih =>
      obtain ⟨hFirst, hRest⟩ := List.forall_mem_cons.mp hFew
      have hPass : t.pass ctx h cache = t.pass ctx' h cache := by
        simp only [Term.pass, resolveAll_congr ctx ctx' hAllowed hSettings hFirst]
      have hFirst' : ctx'.replacer.choices t ≤ 1 := by
        rwa [Replacer.choices, ← hSettings]
      have hSame : ctx.after (t.pass ctx h cache).1.decided = ctx := after_pass_of_few hFirst
      rw [hPass] at hSame
      simp only [passes, hPass, hSame, after_pass_of_few hFirst', ih hRest]

end Few

end Expurgate
