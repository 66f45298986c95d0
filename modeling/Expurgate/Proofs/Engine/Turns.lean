import Expurgate.Proofs.Engine.Patch
import Expurgate.Proofs.Engine.Replay

/-! The turns of an expurgation one by one. A turn patches the text it is given in the places of the
matches it replaces, and leaves the patched text to the next one. -/
namespace Expurgate

/-- Those of several matches that are replaced. -/
def replacedIn (ctx : PassContext) (t : Term) (h : Array Char) :
    List Captures → TokenCache → List MatchParts
  | [], _ => []
  | c :: rest, cache =>
    let (r, cache) := resolve ctx t h c cache
    (if r.match?.isSome then (t.split c).toList else []) ++ replacedIn ctx t h rest cache

/-- How a match is replaced. -/
def PassContext.edit (ctx : PassContext) (t : Term) (h : Array Char) (m : MatchParts) : Edit :=
  ⟨m.raw, ctx.replacer.replacement t m h⟩

/-- What a decision about a stretch does to it, unless it stays. -/
def Resolution.edit? (s : Span) : Resolution → Option Edit
  | replaced text _ _ _ => some ⟨s, text⟩
  | _ => none

/-- What becomes of a text as several matches are decided upon. -/
def editsIn (ctx : PassContext) (t : Term) (h : Array Char) (cs : List Captures)
    (cache : TokenCache) : List Edit :=
  (resolveAll ctx t h cs cache).1.filterMap fun decision => decision.2.edit? decision.1

/-- A term together with the text it has its turn on, and the selector as it is by then. -/
structure Turn where
  term : Term
  text : Array Char
  cache : TokenCache
  selector : Selector

namespace Turn

def result (ctx : PassContext) (u : Turn) : PassResult :=
  (u.term.pass (ctx.choosing u.selector) u.text u.cache).1

/-- The matches that the turn replaces, in order. They do not depend on who chooses. -/
def replaced (ctx : PassContext) (u : Turn) : List MatchParts :=
  replacedIn ctx u.term u.text (u.term.occurrences u.text) u.cache

def edits (ctx : PassContext) (u : Turn) : List Edit :=
  editsIn (ctx.choosing u.selector) u.term u.text (u.term.occurrences u.text) u.cache

end Turn

/-- The turns of several terms, each on what the one before it left. -/
def turns (ctx : PassContext) : List Term → Array Char → TokenCache → List Turn
  | [], _, _ => []
  | t :: rest, h, cache =>
    let (first, cache') := t.pass ctx h cache
    ⟨t, h, cache, ctx.replacer.selector⟩ :: turns (ctx.after first.decided) rest first.text cache'

variable {ctx : PassContext} {t : Term} {h : Array Char} {c : Captures} {m : MatchParts}
  {u : Turn}

/-- The parts of a match cover exactly what the pattern matched, boundaries included. -/
theorem Term.raw_of_split (hSplit : t.split c = some m) : m.raw = ⟨c.start, c.stop⟩ := by
  cases hShape : t.shape with
  | plain =>
      rw [split_plain hShape] at hSplit
      rw [← Option.some.inj hSplit]
      rfl
  | bounded =>
      simp only [Term.split, hShape] at hSplit
      obtain ⟨content, -, rfl⟩ := Option.map_eq_some_iff.mp hSplit
      rfl

/-- A match is replaced by what its parts call for, or stays. -/
theorem resolve_replaces (ctx : PassContext) (t : Term) (h : Array Char) (c : Captures)
    (cache : TokenCache) :
    let decision := (resolve ctx t h c cache).1
    (decision.match? = none ∧ decision.edit? ⟨c.start, c.stop⟩ = none ∧
      decision.text h ⟨c.start, c.stop⟩ = Span.text ⟨c.start, c.stop⟩ h) ∨
    ∃ m, t.split c = some m ∧ m.content.text h ≠ [] ∧ decision.match?.isSome = true ∧
      decision.edit? ⟨c.start, c.stop⟩ = some (ctx.edit t h m) ∧
      decision.text h ⟨c.start, c.stop⟩ = ctx.replacer.replacement t m h := by
  cases hSplit : t.split c with
  | none =>
      simp only [resolve, hSplit]
      exact .inl ⟨rfl, rfl, rfl⟩
  | some m =>
      have hEdit : ctx.edit t h m = ⟨⟨c.start, c.stop⟩, ctx.replacer.replacement t m h⟩ := by
        rw [PassContext.edit, Term.raw_of_split hSplit]
      simp only [resolve, hSplit]
      split
      · exact .inl ⟨rfl, rfl, rfl⟩
      · rename_i hContent
        split
        · exact .inl ⟨rfl, rfl, rfl⟩
        · exact .inr ⟨m, rfl, by simpa using hContent, rfl, hEdit ▸ rfl, rfl⟩

/-- Which matches are replaced is up to the words that are allowed. -/
theorem replacedIn_congr (ctx ctx' : PassContext) (hAllowed : ctx.allowList = ctx'.allowList)
    (cs : List Captures) (cache : TokenCache) :
    replacedIn ctx t h cs cache = replacedIn ctx' t h cs cache := by
  induction cs generalizing cache with
  | nil => rfl
  | cons c rest ih =>
      obtain ⟨hCache, hMatch⟩ := resolve_congr ctx ctx' t h c hAllowed cache
      simp only [replacedIn, hCache, hMatch, ih]

/-- What becomes of successive matches is a patch of the text. -/
theorem splice_resolveAll {cs : List Captures} {start : Nat} (cache : TokenCache)
    (hSuccessive : Successive h.size start cs) (hStart : start ≤ h.size) :
    InOrder h.size start (editsIn ctx t h cs cache) ∧
      splice h start (resolveAll ctx t h cs cache).1 = patch h start (editsIn ctx t h cs cache) := by
  induction hSuccessive generalizing ctx cache with
  | nil start => exact ⟨.nil hStart, rfl⟩
  | @cons start c rest hFrom hLe hSize _ ih =>
      obtain ⟨order, hSplice⟩ := @ih (ctx.after [(resolve ctx t h c cache).1])
        (resolve ctx t h c cache).2 hSize
      rw [editsIn] at order hSplice ⊢
      simp only [resolveAll, splice, hSplice, List.filterMap_cons]
      rcases resolve_replaces ctx t h c cache with
        ⟨-, hNone, hStays⟩ | ⟨m, hSplit, -, -, hSome, hText⟩
      · rw [hNone, hStays]
        exact ⟨order.earlier (Nat.le_trans hFrom hLe), patch_earlier order hFrom hLe⟩
      · have hEdit : (ctx.edit t h m).span = ⟨c.start, c.stop⟩ := Term.raw_of_split hSplit
        rw [hSome, hText]
        refine ⟨.cons (by rw [hEdit]; exact hFrom) (by rw [hEdit]; exact hLe)
          (by rw [hEdit]; exact order), ?_⟩
        rw [patch, hEdit]
        rfl

/-- There is one edit for each match that is replaced, in order. It puts in what somebody has chosen
for the match. -/
theorem forall₂_editsIn (cs : List Captures) (cache : TokenCache) :
    List.Forall₂ (fun m e => ∃ s, e = (ctx.choosing s).edit t h m)
      (replacedIn ctx t h cs cache) (editsIn ctx t h cs cache) := by
  induction cs generalizing ctx cache with
  | nil => exact .nil
  | cons c rest ih =>
      have hRest := @ih (ctx.after [(resolve ctx t h c cache).1]) (resolve ctx t h c cache).2
      rw [replacedIn_congr (ctx.after _) ctx rfl, editsIn] at hRest
      rw [editsIn]
      simp only [replacedIn, resolveAll, List.filterMap_cons]
      rcases resolve_replaces ctx t h c cache with
        ⟨hNone, hStays, -⟩ | ⟨m, hSplit, -, hSome, hEdit, -⟩
      · rw [hNone, hStays]
        exact hRest
      · rw [hSome, if_pos rfl, hSplit, hEdit]
        exact .cons ⟨ctx.replacer.selector, rfl⟩ hRest

/-- Where the choice is always the same, the edits follow from the matches. -/
theorem editsIn_of_steady (steady : ctx.replacer.Steady t) (cs : List Captures)
    (cache : TokenCache) :
    editsIn ctx t h cs cache = (replacedIn ctx t h cs cache).map (ctx.edit t h) := by
  induction cs generalizing cache with
  | nil => rfl
  | cons c rest ih =>
      have hRest := ih (resolve ctx t h c cache).2
      rw [editsIn] at hRest ⊢
      simp only [replacedIn, resolveAll, after_of_steady steady, List.filterMap_cons,
        List.map_append, hRest]
      rcases resolve_replaces ctx t h c cache with
        ⟨hNone, hStays, -⟩ | ⟨m, hSplit, -, hSome, hEdit, -⟩
      · rw [hNone, hStays]
        rfl
      · rw [hSome, if_pos rfl, hSplit, hEdit]
        rfl

/-- What is replaced was found by the term, and its content is not empty. Matches of nothing are not
replaced, however often a pattern makes them. -/
theorem mem_replacedIn {cs : List Captures} {cache : TokenCache}
    (hMem : m ∈ replacedIn ctx t h cs cache) :
    ∃ c ∈ cs, t.split c = some m ∧ m.content.text h ≠ [] := by
  induction cs generalizing cache with
  | nil => cases hMem
  | cons c rest ih =>
      simp only [replacedIn] at hMem
      rcases List.mem_append.mp hMem with hNow | hLater
      · rcases resolve_replaces ctx t h c cache with
          ⟨hNone, -⟩ | ⟨m', hSplit, hContent, hSome, -, -⟩
        · simp [hNone] at hNow
        · rw [hSome, if_pos rfl, hSplit] at hNow
          obtain rfl : m = m' := by simpa using hNow
          exact ⟨c, List.mem_cons_self, hSplit, hContent⟩
      · obtain ⟨c', hMem', hFound⟩ := ih hLater
        exact ⟨c', List.mem_cons_of_mem _ hMem', hFound⟩

/-- Where no words are allowed, every match with a content is replaced. -/
theorem mem_replacedIn_of_strict (hAllowed : ctx.allowList.isEmpty = true) {cs : List Captures}
    (hMem : c ∈ cs) (hSplit : t.split c = some m) (hContent : m.content.text h ≠ [])
    (cache : TokenCache) : m ∈ replacedIn ctx t h cs cache := by
  induction cs generalizing cache with
  | nil => cases hMem
  | cons d rest ih =>
      simp only [replacedIn]
      rcases List.mem_cons.mp hMem with rfl | hLater
      · have hExempt : (ctx.allowList.exempts t m h cache).1 = false := by
          rw [AllowList.exempts, if_pos hAllowed]
        rw [resolve_replaced hSplit hContent hExempt, Option.isSome_some, if_pos rfl, hSplit]
        exact List.mem_append_left _ (List.mem_singleton.mpr rfl)
      · exact List.mem_append_right _ (ih hLater _)

namespace Turn

/-- A turn writes its result with edits that are in order, so the result is the text with each edit
in its place. -/
theorem edits_inOrder (ctx : PassContext) (u : Turn) :
    InOrder u.text.size 0 (u.edits ctx) ∧
      (u.result ctx).text.toList = patch u.text 0 (u.edits ctx) := by
  exact splice_resolveAll u.cache Program.successive_findAll (Nat.zero_le _)

/-- A turn whose choice is always the same edits its matches as they call for. -/
theorem edits_of_steady (ctx : PassContext) (u : Turn)
    (steady : (ctx.choosing u.selector).replacer.Steady u.term) :
    u.edits ctx = (u.replaced ctx).map ((ctx.choosing u.selector).edit u.term u.text) := by
  rw [edits, editsIn_of_steady steady, replacedIn_congr (ctx.choosing u.selector) ctx rfl]
  rfl

/-- A turn that has nothing to choose edits its matches the same way whoever chooses. -/
theorem edits_of_few (u : Turn) (hFew : ctx.replacer.choices u.term ≤ 1) :
    u.edits ctx = (u.replaced ctx).map (ctx.edit u.term u.text) := by
  have hEdit (m : MatchParts) :
      (ctx.choosing u.selector).edit u.term u.text m = ctx.edit u.term u.text m := by
    have hSame : ctx.replacer.replacement u.term m u.text =
        (ctx.choosing u.selector).replacer.replacement u.term m u.text :=
      Replacer.replacement_congr ctx.replacer (ctx.choosing u.selector).replacer rfl hFew m u.text
    rw [PassContext.edit, PassContext.edit, hSame]
  rw [u.edits_of_steady ctx (.inl hFew)]
  exact List.map_congr_left fun m _ => hEdit m

section Alone

variable (hAllowed : ctx.allowList.isEmpty = true) (hOnly : t.occurrences h = [c])
  (hSplit : t.split c = some m) (hContent : m.content.text h ≠ []) (cache : TokenCache)
  (s : Selector)
include hAllowed hOnly hSplit hContent

/-- A match that is the only one is the only one to be replaced. -/
theorem replaced_alone : (⟨t, h, cache, s⟩ : Turn).replaced ctx = [m] := by
  have hExempt : (ctx.allowList.exempts t m h cache).1 = false := by
    rw [AllowList.exempts, if_pos hAllowed]
  simp only [replaced, hOnly, replacedIn, resolve_replaced hSplit hContent hExempt, hSplit]
  rfl

/-- The text around it stays. -/
theorem result_alone : ((⟨t, h, cache, s⟩ : Turn).result ctx).text.toList =
    Span.text ⟨0, c.start⟩ h ++ (ctx.choosing s).replacer.replacement t m h ++
      Span.text ⟨c.stop, h.size⟩ h := by
  let u : Turn := ⟨t, h, cache, s⟩
  have hExempt : ((ctx.choosing s).allowList.exempts t m h cache).1 = false := by
    rw [AllowList.exempts, PassContext.allowList_choosing, if_pos hAllowed]
  have hRaw := Term.raw_of_split hSplit
  have hEdits : u.edits ctx = [(ctx.choosing s).edit t h m] := by
    rcases resolve_replaces (ctx.choosing s) t h c cache with
      ⟨hNone, -⟩ | ⟨m', hParts, -, -, hEdit, -⟩
    · rw [resolve_replaced hSplit hContent hExempt] at hNone
      cases hNone
    · obtain rfl := Option.some.inj (hSplit.symm.trans hParts)
      simp only [edits, editsIn, u, hOnly, resolveAll, List.filterMap_cons, hEdit]
      rfl
  rw [(edits_inOrder ctx u).2, hEdits, patch, patch]
  simp only [PassContext.edit, hRaw]
  rfl

end Alone

end Turn

/-- What each turn keeps, and what passes on, holds between a text and what all turns make of it. -/
theorem passes_relates {R : List Char → List Char → Prop} (hRefl : ∀ l, R l l)
    (hTrans : ∀ l l' l'', R l l' → R l' l'' → R l l'') {terms : List Term} {cache : TokenCache}
    (hTurns : ∀ u ∈ turns ctx terms h cache, R u.text.toList (u.result ctx).text.toList) :
    R h.toList (passes ctx terms h cache).text.toList := by
  induction terms generalizing ctx h cache with
  | nil => exact hRefl _
  | cons t rest ih =>
      obtain ⟨hFirst, hRest⟩ := List.forall_mem_cons.mp hTurns
      exact hTrans _ _ _ hFirst (ih hRest)

theorem term_of_mem_turns {terms : List Term} {cache : TokenCache}
    (hMem : u ∈ turns ctx terms h cache) : u.term ∈ terms := by
  induction terms generalizing ctx h cache with
  | nil => cases hMem
  | cons t rest ih =>
      rcases List.mem_cons.mp hMem with rfl | hLater
      · exact List.mem_cons_self
      · exact List.mem_cons_of_mem _ (ih hLater)

section Unmatched

/-- The decisions on matches tell of one exactly where the matches to be replaced have one. -/
theorem matched_resolveAll_eq_nil_iff (cs : List Captures) (cache : TokenCache) :
    (resolveAll ctx t h cs cache).1.filterMap (·.2.match?) = [] ↔
      replacedIn ctx t h cs cache = [] := by
  induction cs generalizing ctx cache with
  | nil => exact iff_of_true rfl rfl
  | cons c rest ih =>
      have hRest := @ih (ctx.after [(resolve ctx t h c cache).1]) (resolve ctx t h c cache).2
      rw [replacedIn_congr (ctx.after _) ctx rfl] at hRest
      simp only [resolveAll, replacedIn, List.filterMap_cons]
      rcases resolve_replaces ctx t h c cache with
        ⟨hNone, -⟩ | ⟨m, hSplit, -, hSome, -⟩
      · rw [hNone]
        exact hRest
      · obtain ⟨record, hRecord⟩ := Option.isSome_iff_exists.mp hSome
        rw [hRecord, hSplit]
        exact iff_of_false (List.cons_ne_nil _ _) (List.cons_ne_nil _ _)

/-- A pass reports no match exactly when it replaces none. Exempt and empty matches are not
reported. -/
theorem matched_pass_eq_nil_iff (cache : TokenCache) :
    (t.pass ctx h cache).1.matched = [] ↔ replacedIn ctx t h (t.occurrences h) cache = [] := by
  rw [← matched_resolveAll_eq_nil_iff]
  simp only [Term.pass, PassResult.matched, List.filterMap_map]
  rfl

/-- A turn that replaces nothing leaves its text as it is. -/
theorem text_pass_of_unmatched {cache : TokenCache}
    (hNone : (t.pass ctx h cache).1.matched = []) : (t.pass ctx h cache).1.text = h := by
  have hEdits := @forall₂_editsIn ctx t h (t.occurrences h) cache
  rw [(matched_pass_eq_nil_iff cache).mp hNone, List.forall₂_nil_left_iff] at hEdits
  have hPatch := (Turn.edits_inOrder ctx ⟨t, h, cache, ctx.replacer.selector⟩).2
  rw [Turn.edits, PassContext.choosing_self, hEdits, patch, Span.text_zero_size] at hPatch
  exact Array.toList_inj.mp hPatch

/-- Which patterns the allow list builds depends on the text and the term and not on what takes the
place of a match. -/
theorem cache_resolveAll_congr (ctx ctx' : PassContext) (hAllowed : ctx.allowList = ctx'.allowList)
    (cs : List Captures) (cache : TokenCache) :
    (resolveAll ctx t h cs cache).2 = (resolveAll ctx' t h cs cache).2 := by
  induction cs generalizing ctx ctx' cache with
  | nil => rfl
  | cons c rest ih =>
      simp only [resolveAll]
      rw [(resolve_congr ctx ctx' t h c hAllowed cache).1]
      exact ih (ctx.after [_]) (ctx'.after [_]) hAllowed _

/-- The first term's matches come first, and the others are found in the text that it leaves, with
the choices and the patterns that it leaves. -/
theorem matched_passes_cons (ctx : PassContext) (t : Term) (rest : List Term) (h : Array Char)
    (cache : TokenCache) : (passes ctx (t :: rest) h cache).matched =
      (t.pass ctx h cache).1.matched ++ (passes (ctx.after (t.pass ctx h cache).1.decided) rest
        (t.pass ctx h cache).1.text (t.pass ctx h cache).2).matched :=
  List.filterMap_append

/-- Where nothing is replaced, nothing would be with another replacer. -/
theorem unmatched_passes_congr (ctx ctx' : PassContext) (hAllowed : ctx.allowList = ctx'.allowList)
    {terms : List Term} {h : Array Char} {cache : TokenCache}
    (hNone : (passes ctx terms h cache).matched = []) :
    (passes ctx' terms h cache).matched = [] := by
  induction terms generalizing ctx ctx' h cache with
  | nil => rfl
  | cons t rest ih =>
      rw [matched_passes_cons, List.append_eq_nil_iff] at hNone ⊢
      obtain ⟨hFirst, hOthers⟩ := hNone
      have hFirst' : (t.pass ctx' h cache).1.matched = [] := by
        rw [matched_pass_eq_nil_iff, ← replacedIn_congr ctx ctx' hAllowed]
        exact (matched_pass_eq_nil_iff cache).mp hFirst
      have hCache : (t.pass ctx h cache).2 = (t.pass ctx' h cache).2 :=
        cache_resolveAll_congr ctx ctx' hAllowed _ _
      refine ⟨hFirst', ?_⟩
      rw [text_pass_of_unmatched hFirst, hCache] at hOthers
      rw [text_pass_of_unmatched hFirst']
      exact ih (ctx.after _) (ctx'.after _) hAllowed hOthers

end Unmatched

namespace Config

def context (c : Config) (selector : Selector) : PassContext :=
  ⟨.ofEntries c.allowList, ⟨c.settings, selector⟩⟩

/-- The turns that a request to expurgate a text takes. -/
def turns (c : Config) (selector : Selector) (profile : ProfileId) (text : String) : List Turn :=
  Expurgate.turns (c.context selector) (c.freshSet (c.resolve profile)).terms text.toList.toArray
    .empty

/-- Terms that are listed by length already are used in this order. -/
theorem terms_freshSet_all {c : Config}
    (hSorted : c.terms.Pairwise fun a b => b.text.length ≤ a.text.length) :
    (c.freshSet .all).terms = c.terms.filterMap fun o => (Term.compile o c.settings).toOption := by
  have hCandidates : TermSet.candidates c .all = c.terms := by
    have hAll : c.terms.filter (·.belongsTo .all) = c.terms :=
      List.filter_eq_self.mpr fun _ _ => rfl
    rw [TermSet.candidates, hAll]
    exact List.mergeSort_of_pairwise (hSorted.imp fun hLe => decide_eq_true hLe)
  rw [← hCandidates]
  exact TermSet.terms_eq c .all

/-- The profile is one of the configuration, and the term belongs to it. -/
def Admits (c : Config) (profile : ProfileId) (o : TermOptions) : Prop :=
  c.checkProfile profile = .ok () ∧ o.belongsTo profile = true

/-- The only term is the only one that is used. -/
theorem terms_freshSet_singleton {c : Config} {o : TermOptions} {t : Term} {profile : ProfileId}
    (hTerms : c.terms = [o]) (hCompile : Term.compile o c.settings = .ok t)
    (hProfile : c.Admits profile o) : (c.freshSet profile).terms = [t] := by
  have hCandidates : TermSet.candidates c profile = [o] := by
    have hFilter : [o].filter (·.belongsTo profile) = [o] :=
      List.filter_eq_self.mpr (List.forall_mem_singleton.mpr hProfile.2)
    rw [TermSet.candidates, hTerms, hFilter, List.mergeSort_singleton]
  simp only [freshSet, hProfile.1]
  rw [TermSet.terms_eq, hCandidates, List.filterMap_cons, hCompile]
  rfl

/-- Each turn of a configuration belongs to a term that was prepared from its options. -/
theorem prepared_of_mem_turns {c : Config} {selector : Selector} {profile : ProfileId}
    {text : String} (hMem : u ∈ c.turns selector profile text) :
    ∃ o ∈ c.terms, Term.Prepared o c.settings u.term :=
  c.prepared_of_mem_freshSet _ _ (term_of_mem_turns hMem)

end Config

namespace Engine

/-- After any requests a text is expurgated as the configuration in effect says. -/
theorem outcome_after (c : Config) (selector : Selector) (before : List Operation) (text : String)
    (profile : ProfileId) (record : Bool) :
    let e := (new c selector).after before
    let current := c.after before
    (e.expurgate text profile record).1.outcome =
      if current.settings.filterMethod = .off ∨ text = "" then .unchanged text
      else ((current.freshSet (current.resolve profile)).expurgate (current.context e.selector)
        text).1 := by
  intro e current
  have hConfig : e.config = current := config_after _ before
  have hContext : e.context = current.context e.selector := context_after c selector before
  rw [outcome_expurgate, ((Coherent.new c selector).after before).termSet_set, hConfig, hContext]

/-- Unless there is nothing to do, the filtered text is what the turns leave. -/
theorem filtered_after (c : Config) (selector : Selector) (before : List Operation) {text : String}
    (profile : ProfileId) (record : Bool) (hMethod : (c.after before).settings.filterMethod ≠ .off)
    (hText : text ≠ "") :
    let e := (new c selector).after before
    let current := c.after before
    (e.expurgate text profile record).1.outcome.filtered.toList =
      (passes (current.context e.selector) (current.freshSet (current.resolve profile)).terms
        text.toList.toArray .empty).text.toList := by
  intro e current
  rw [outcome_after, if_neg (not_or.mpr ⟨hMethod, hText⟩), TermSet.expurgate, String.toList_ofList]

/-- The only term has the only turn. -/
theorem filtered_alone (c : Config) (selector : Selector) (before : List Operation) {text : String}
    {profile : ProfileId} (record : Bool) {o : TermOptions} {t : Term}
    (hTerms : (c.after before).terms = [o])
    (hCompile : Term.compile o (c.after before).settings = .ok t)
    (hProfile : (c.after before).Admits ((c.after before).resolve profile) o)
    (hMethod : (c.after before).settings.filterMethod ≠ .off) (hText : text ≠ "") :
    let e := (new c selector).after before
    (e.expurgate text profile record).1.outcome.filtered.toList =
      ((⟨t, text.toList.toArray, .empty, e.selector⟩ : Turn).result
        ((c.after before).context e.selector)).text.toList := by
  intro e
  rw [filtered_after c selector before profile record hMethod hText,
    Config.terms_freshSet_singleton hTerms hCompile hProfile]
  rfl

/-- What each turn keeps, and what passes on, holds between a text and the filtered one. -/
theorem expurgate_relates {R : List Char → List Char → Prop} (hRefl : ∀ l, R l l)
    (hTrans : ∀ l l' l'', R l l' → R l' l'' → R l l'') (c : Config) (selector : Selector)
    (before : List Operation) (text : String) (profile : ProfileId) (record : Bool) :
    let e := (new c selector).after before
    let current := c.after before
    (∀ u ∈ current.turns e.selector profile text,
      R u.text.toList (u.result (current.context e.selector)).text.toList) →
    R text.toList (e.expurgate text profile record).1.outcome.filtered.toList := by
  intro e current hTurns
  rw [outcome_after]
  split
  · exact hRefl _
  · rw [TermSet.expurgate, String.toList_ofList]
    exact passes_relates hRefl hTrans hTurns

end Engine

end Expurgate
