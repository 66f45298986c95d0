import Expurgate.Proofs.Engine.Statistics
import Expurgate.Proofs.Term.Extent

/-! Censoring a censored text. A turn of an exact plain term leaves no occurrence of it, and masks of
a character that no term reads let no new occurrence of any such term appear. So a second
expurgation finds nothing. -/
namespace Expurgate

open Unicode

/-- An edit puts masks in the place of words. -/
structure Edit.Masks (mask : Char) (h : Array Char) (e : Edit) : Prop where
  nonempty : e.text ≠ []
  only : ∀ c ∈ e.text, c = mask
  begins : BeginsWord h e.span.start
  ends : EndsWord h e.span.stop

section Masks

variable {mask : Char} {h g : Array Char} {edits : List Edit} {i j p : Nat}

/-- What is free of masks after the edits stood in the text before, in one piece. -/
theorem source_of_free (order : InOrder h.size 0 edits) (hMasks : ∀ e ∈ edits, e.Masks mask h)
    (hPatch : g.toList = patch h 0 edits) (hLess : i < j)
    (hFree : ∀ k, i ≤ k → k < j → ∃ c, g[k]? = some c ∧ c ≠ mask) :
    ∃ p, ∀ n, i + n < j → source 0 edits (i + n) = .kept (p + n) := by
  have hKept : ∀ k, i ≤ k → k < j → ∃ p, source 0 edits k = .kept p := by
    intro k hFrom hTo
    obtain ⟨c, hChar, hNot⟩ := hFree k hFrom hTo
    cases hSource : source 0 edits k with
    | kept p => exact ⟨p, rfl⟩
    | inserted e n =>
        have hGet := getElem?_of_patch order hPatch k
        rw [hSource, hChar] at hGet
        have hMem := List.mem_of_getElem? hGet.symm
        exact absurd ((hMasks e (mem_of_source_inserted hSource).1).only c hMem) hNot
  obtain ⟨p, hFirst⟩ := hKept i (Nat.le_refl i) hLess
  refine ⟨p, fun n => ?_⟩
  induction n with
  | zero => exact fun _ => hFirst
  | succ n ih =>
      intro hTo
      obtain ⟨q, hNext⟩ := hKept (i + (n + 1)) (by omega) hTo
      rw [hNext, source_next (fun e he => (hMasks e he).nonempty) (ih (by omega)) hNext]
      rfl

/-- A word that is free of masks after the edits was a word before, apart from what was masked. -/
theorem exists_word_before (order : InOrder h.size 0 edits)
    (hMasks : ∀ e ∈ edits, e.Masks mask h) (hPatch : g.toList = patch h 0 edits)
    (hBegins : BeginsWord g i) (hEnds : EndsWord g j) (hLess : i < j)
    (hFree : ∀ k, i ≤ k → k < j → ∃ c, g[k]? = some c ∧ c ≠ mask) :
    ∃ p, BeginsWord h p ∧ EndsWord h (p + (j - i)) ∧ p + (j - i) ≤ h.size ∧
      Span.text ⟨p, p + (j - i)⟩ h = Span.text ⟨i, j⟩ g ∧
      ∀ e ∈ edits, p < e.span.start ∨ e.span.stop ≤ p := by
  obtain ⟨p, hSource⟩ := source_of_free order hMasks hPatch hLess hFree
  have hGet {k q : Nat} (hKept : source 0 edits k = .kept q) : g[k]? = h[q]? := by
    have hChar := getElem?_of_patch order hPatch k
    rwa [hKept] at hChar
  have hSame {n : Nat} (hn : i + n < j) : g[i + n]? = h[p + n]? := hGet (hSource n hn)
  have hFirst : source 0 edits i = .kept p := hSource 0 (by omega)
  have hLast := hSource (j - i - 1) (by omega)
  rw [show i + (j - i - 1) = j - 1 by omega] at hLast
  obtain ⟨c, hChar, hWord⟩ := hEnds.before
  rw [charBefore, if_neg (by omega)] at hChar
  have hChar' := (hGet hLast).symm.trans hChar
  have hSize := (Array.getElem?_eq_some_iff.mp hChar).1
  have hSize' := (Array.getElem?_eq_some_iff.mp hChar').1
  have hHere : ∃ c, h[p]? = some c ∧ isWord c = true := by
    obtain ⟨d, hd, hdWord⟩ := hBegins.here
    exact ⟨d, (hSame (n := 0) (by omega)).symm.trans hd, hdWord⟩
  have hBefore : charBefore h (p + (j - i)) = some c := by
    rw [charBefore, if_neg (by omega), ← hChar']
    congr 1
    omega
  refine ⟨p, ⟨hHere, ?_⟩, ⟨⟨c, hBefore, hWord⟩, ?_⟩, by omega, ?_, ?_⟩
  · -- No edit ends in front of a word, so the character there stayed too.
    intro a ha
    have hNone : ∀ e ∈ edits, e.span.stop ≠ p := by
      rintro e he rfl
      obtain ⟨d, hd, hdWord⟩ := hHere
      rw [(hMasks e he).ends.here d hd] at hdWord
      cases hdWord
    have hPos : 0 < p := by
      rcases Nat.eq_zero_or_pos p with rfl | hPos
      · cases ha
      · exact hPos
    obtain ⟨k, rfl, hPred⟩ := source_pred order hFirst hPos hNone
    rw [charBefore, if_neg (by omega), ← hGet hPred] at ha
    exact hBegins.before a ha
  · intro a ha
    have hNone : ∀ e ∈ edits, e.span.start ≠ p + (j - i - 1) + 1 := by
      intro e he hStart
      have hNot := (hMasks e he).begins.before c (by rw [hStart, ← hBefore]; congr 1; omega)
      rw [hNot] at hWord
      cases hWord
    have hNext := source_succ hLast hNone
    rw [show j - 1 + 1 = j by omega, show p + (j - i - 1) + 1 = p + (j - i) by omega] at hNext
    exact hEnds.here a ((hGet hNext).trans ha)
  · refine List.ext_getElem? fun n => ?_
    by_cases hn : i + n < j
    · rw [Span.getElem?_text n (by omega), Span.getElem?_text n hn, hSame hn]
    · have hLeft := Span.length_text (h := h) (i := p) (j := p + (j - i)) (by omega)
      have hRight := Span.length_text (h := g) (i := i) (j := j) (by omega)
      rw [List.getElem?_eq_none (by omega), List.getElem?_eq_none (by omega)]
  · exact (apart_of_source_kept order hFirst).2

end Masks

/-- An exact term in plain shape that begins and ends with word characters and has no character that
is equal to the mask up to case. -/
structure TermOptions.ExactWithout (o : TermOptions) (s : Settings) (mask : Char) : Prop where
  method : o.methodIn s = .exact
  shape : o.shapeIn s = .plain
  edged : WordEdged o.text.toList
  free : ∀ c ∈ o.text.toList, sameFold c mask = false

/-- A character that neither a word nor what may stand between the characters of a term has. -/
structure ForeignMask (mask : Char) : Prop where
  word : isWord mask = false
  space : mask ≠ ' '
  hyphen : mask ≠ '-'

/-- No stretch of a text suits a term. -/
def TermOptions.Clear (o : TermOptions) (s : Settings) (h : Array Char) : Prop :=
  ∀ i j, ¬o.Suits s h i j

section Exact

variable {o : TermOptions} {s : Settings} {mask : Char} {h : Array Char} {i j : Nat} {t : Term}

/-- What suits such a term is a word without masks. -/
theorem TermOptions.ExactWithout.word (exact : o.ExactWithout s mask) (foreign : ForeignMask mask)
    (hText : o.text.toList ≠ []) (suits : o.Suits s h i j) :
    i < j ∧ BeginsWord h i ∧ EndsWord h j ∧
      ∀ k, i ≤ k → k < j → ∃ c, h[k]? = some c ∧ c ≠ mask := by
  have hDemands := suits.demands
  rw [exact.method, exact.shape] at hDemands
  obtain ⟨hLess, hFirst, hLast⟩ := suits.spells.places exact.edged hText suits.le_size
  refine ⟨hLess, beginsWord_of_edge hDemands.1 hFirst, endsWord_of_edge hDemands.2 hLast, ?_⟩
  intro k hFrom hTo
  have hSize := suits.le_size
  have hChar : h[k]? = some h[k] := Array.getElem?_eq_getElem (by omega)
  refine ⟨h[k], hChar, fun hMask => ?_⟩
  have hMem : h[k] ∈ Span.text ⟨i, j⟩ h := by
    refine List.mem_iff_getElem?.mpr ⟨k - i, ?_⟩
    rw [Span.getElem?_text _ (by omega), Nat.add_sub_cancel' hFrom, hChar]
  rcases suits.spells.mem_cases _ hMem with ⟨c, hc, hSame⟩ | ⟨-, hSeparator⟩
  · rw [hMask, exact.free c hc] at hSame
    cases hSame
  · rcases isSeparator_iff.mp (hMask ▸ hSeparator) with rfl | rfl | rfl
    · exact foreign.space rfl
    · exact absurd foreign.word (by decide)
    · exact foreign.hyphen rfl

/-- A word of the same text suits a term as well, wherever it stands. -/
theorem TermOptions.ExactWithout.suits_of_word (exact : o.ExactWithout s mask) {h' : Array Char}
    {p q : Nat} (suits : o.Suits s h i j) (hLe : p ≤ q) (hTo : q ≤ h'.size)
    (hText : Span.text ⟨p, q⟩ h' = Span.text ⟨i, j⟩ h) (hBegins : BeginsWord h' p)
    (hEnds : EndsWord h' q) : o.Suits s h' p q := by
  refine ⟨hLe, hTo, by rw [hText]; exact suits.spells, ?_⟩
  rw [exact.method, exact.shape]
  exact ⟨holds_wordEdge_iff.mpr (.inl hBegins), holds_wordEdge_iff.mpr (.inr hEnds)⟩

variable (ht : Term.Prepared o s t) (exact : o.ExactWithout s mask)
include ht exact

/-- Every match suits the term. -/
theorem Term.Prepared.suits_of_mem (hKeep : s.filterMethod ≠ .remove) {c : Captures}
    (hMem : c ∈ t.occurrences h) : o.Suits s h c.start c.stop := by
  have hMethod : o.methodIn s ≠ .regex := by simp [exact.method]
  obtain ⟨i', i, j, j', takes⟩ := ht.occupies hKeep hMethod hMem
  obtain ⟨rfl, rfl⟩ := takes.bare (by simp [exact.method])
  obtain ⟨hStart, hStop⟩ := takes.unbounded (.inl exact.shape)
  rw [hStart, hStop]
  exact takes.suits hKeep hMethod

end Exact

section Censor

variable {ctx : PassContext} {o : TermOptions} {u : Turn}

/-- Under these settings a mask hides all of what it stands for, and no word is exempt. -/
structure PassContext.Conceals (ctx : PassContext) (mask : Char) : Prop where
  method : ctx.replacer.settings.filterMethod = .censor
  character : ctx.replacer.settings.censorCharacter = mask
  first : ctx.replacer.settings.preserveFirst = false
  last : ctx.replacer.settings.preserveLast = false
  strict : ctx.allowList.isEmpty = true
  foreign : ForeignMask mask

variable {mask : Char} (conceals : ctx.Conceals mask)
include conceals

/-- To conceal is to censor, so matches are never removed. -/
theorem PassContext.Conceals.keeps : ctx.replacer.settings.filterMethod ≠ .remove := by
  rw [conceals.method]
  nofun

/-- A mask is not chosen among words, so a generator of choices has no part in the outcome. -/
theorem PassContext.Conceals.choices_le (t : Term) : ctx.replacer.choices t ≤ 1 := by
  refine Replacer.choices_of_method ?_ t
  rw [conceals.method]
  nofun

/-- It does not matter who chooses. -/
theorem PassContext.Conceals.choosing (s : Selector) : (ctx.choosing s).Conceals mask :=
  ⟨conceals.method, conceals.character, conceals.first, conceals.last, conceals.strict,
    conceals.foreign⟩

/-- Every edit of a turn puts a mask in place of what a term matched. Words at the sides of the
match are kept as they stand. -/
theorem Turn.masks (ht : Term.Prepared o ctx.replacer.settings u.term)
    (exact : o.ExactWithout ctx.replacer.settings mask) :
    ∀ e ∈ u.edits ctx, e.Masks mask u.text := by
  have hText := ht.toList_ne_nil
  intro e he
  rw [u.edits_of_few (conceals.choices_le u.term)] at he
  obtain ⟨m, hm, rfl⟩ := List.mem_map.mp he
  obtain ⟨c, hMem, hSplit, hContent⟩ := mem_replacedIn hm
  rw [Term.split_plain (ht.shape.trans exact.shape)] at hSplit
  obtain rfl := Option.some.inj hSplit
  obtain ⟨-, hBegins, hEnds, -⟩ :=
    exact.word conceals.foreign hText (ht.suits_of_mem exact conceals.keeps hMem)
  have hMask : (ctx.edit u.term u.text (.plain ⟨c.start, c.stop⟩)).text =
      List.replicate (if 0 < ctx.replacer.settings.censorFixedLength
        then ctx.replacer.settings.censorFixedLength
        else (Span.text ⟨c.start, c.stop⟩ u.text).length) mask := by
    simp only [PassContext.edit, Replacer.replacement, conceals.method, Replacer.reattach,
      Replacer.censor, censorWord, conceals.first, conceals.last, conceals.character]
    rfl
  refine ⟨?_, ?_, hBegins, hEnds⟩
  · rw [hMask]
    have hPos : 0 < (Span.text ⟨c.start, c.stop⟩ u.text).length := List.length_pos_iff.mpr hContent
    intro hNil
    have hNone := List.replicate_eq_nil_iff _ |>.mp hNil
    split at hNone <;> omega
  · rw [hMask]
    exact fun d hd => List.eq_of_mem_replicate hd

/-- A turn lets nothing appear that suits another such term. -/
theorem Turn.suits_before (ht : Term.Prepared o ctx.replacer.settings u.term)
    (exact : o.ExactWithout ctx.replacer.settings mask) {o' : TermOptions}
    (exact' : o'.ExactWithout ctx.replacer.settings mask) (hText : o'.text.toList ≠ []) {i j : Nat}
    (suits : o'.Suits ctx.replacer.settings (u.result ctx).text i j) :
    ∃ p q, o'.Suits ctx.replacer.settings u.text p q ∧
      ∀ e ∈ u.edits ctx, p < e.span.start ∨ e.span.stop ≤ p := by
  obtain ⟨hLess, hBegins, hEnds, hFree⟩ := exact'.word conceals.foreign hText suits
  obtain ⟨order, hPatch⟩ := u.edits_inOrder ctx
  obtain ⟨p, hBegins', hEnds', hTo, hSame, hApart⟩ := exists_word_before order
    (Turn.masks conceals ht exact) hPatch hBegins hEnds hLess hFree
  exact ⟨p, _, exact'.suits_of_word suits (Nat.le_add_right _ _) hTo hSame hBegins' hEnds', hApart⟩

/-- A turn leaves nothing that suits its own term. -/
theorem Turn.clear (ht : Term.Prepared o ctx.replacer.settings u.term)
    (exact : o.ExactWithout ctx.replacer.settings mask) :
    o.Clear ctx.replacer.settings (u.result ctx).text := by
  intro i j suits
  have hText := ht.toList_ne_nil
  obtain ⟨p, q, suits', hApart⟩ := Turn.suits_before conceals ht exact exact hText suits
  rw [u.edits_of_few (conceals.choices_le u.term)] at hApart
  obtain ⟨c, hMem, hFrom, hTo⟩ :=
    ht.exists_overlap conceals.keeps (.inr ⟨exact.method, exact.shape⟩) suits'
  have hSplit := Term.split_plain (ht.shape.trans exact.shape) c
  have hSize := (ht.bounds_of_mem (by rw [exact.method]; nofun) hMem).2
  have hContent : (MatchParts.plain ⟨c.start, c.stop⟩).content.text u.text ≠ [] :=
    Span.text_ne_nil (by omega) hSize
  have hReplaced := mem_replacedIn_of_strict conceals.strict hMem hSplit hContent u.cache
  have := hApart _ (List.mem_map_of_mem hReplaced)
  simp only [PassContext.edit, MatchParts.raw] at this
  omega

/-- The turns of such terms leave nothing that suits one of them, or that did not suit a term
before. -/
theorem clear_passes {terms : List Term}
    (hTerms : ∀ t ∈ terms, ∃ o, Term.Prepared o ctx.replacer.settings t ∧
      o.ExactWithout ctx.replacer.settings mask) (h : Array Char) (cache : TokenCache) :
    (∀ o : TermOptions, o.ExactWithout ctx.replacer.settings mask → o.text.toList ≠ [] →
      o.Clear ctx.replacer.settings h →
        o.Clear ctx.replacer.settings (passes ctx terms h cache).text) ∧
    ∀ t ∈ terms, t.occurrences (passes ctx terms h cache).text = [] := by
  induction terms generalizing ctx h cache with
  | nil => exact ⟨fun _ _ _ => id, nofun⟩
  | cons t rest ih =>
      obtain ⟨⟨o, ht, exact⟩, hRest⟩ := List.forall_mem_cons.mp hTerms
      have hText := ht.toList_ne_nil
      let u : Turn := ⟨t, h, cache, ctx.replacer.selector⟩
      obtain ⟨hKeeps, hSilent⟩ := @ih (ctx.after (u.result ctx).decided) (conceals.choosing _) hRest
        (u.result ctx).text (t.pass ctx h cache).2
      refine ⟨fun o' exact' hText' hClear => hKeeps o' exact' hText' ?_, ?_⟩
      · intro i j suits
        obtain ⟨p, q, suits', -⟩ := Turn.suits_before (u := u) conceals ht exact exact' hText' suits
        exact hClear p q suits'
      · refine List.forall_mem_cons.mpr ⟨?_, hSilent⟩
        by_contra hSome
        obtain ⟨i, j, suits⟩ :=
          (ht.occurrences_ne_nil_iff (by rw [exact.method]; nofun)).mp hSome
        have hClear : o.Clear ctx.replacer.settings (u.result ctx).text :=
          Turn.clear conceals ht exact
        exact hKeeps o exact hText hClear i j suits

end Censor

/-- Terms that are not found leave a text as it is. -/
theorem passes_of_silent {ctx : PassContext} {terms : List Term} {h : Array Char}
    {cache : TokenCache} (hSilent : ∀ t ∈ terms, t.occurrences h = []) :
    passes ctx terms h cache = ⟨h, []⟩ := by
  induction terms generalizing ctx cache with
  | nil => rfl
  | cons t rest ih =>
      obtain ⟨hFirst, hRest⟩ := List.forall_mem_cons.mp hSilent
      simp [passes, Term.pass, hFirst, resolveAll, splice, ih hRest]

namespace Engine

/-- An expurgation leaves the configuration in effect, and the next one goes by it too. -/
theorem outcome_again (c : Config) (selector : Selector) (before : List Operation)
    (text text' : String) (profile profile' : ProfileId) (record record' : Bool) :
    let current := c.after before
    let next := (((new c selector).after before).expurgate text profile record).2
    (next.expurgate text' profile' record').1.outcome =
      if current.settings.filterMethod = .off ∨ text' = "" then .unchanged text'
      else ((current.freshSet (current.resolve profile')).expurgate
        (current.context next.selector) text').1 := by
  intro current next
  let done : Operation := .expurgate text profile record
  have hNext : next = (new c selector).after (before ++ [done]) := (after_concat _ before done).symm
  have hConfig : c.after (before ++ [done]) = current := List.foldl_concat ..
  have hOutcome := outcome_after c selector (before ++ [done]) text' profile' record'
  rwa [← hNext, hConfig] at hOutcome

/-- Exact terms censor a text once and for all. Where masks are foreign to the terms, nothing of a
word is preserved and no words are allowed, the filtered text of an expurgation has no match in the
next one, which leaves it as it is. -/
theorem expurgate_idempotent (c : Config) (selector : Selector) (before : List Operation)
    (text : String) (profile : ProfileId) (record record' : Bool) :
    let current := c.after before
    let s := current.settings
    let first := ((new c selector).after before).expurgate text profile record
    let second := (first.2.expurgate first.1.outcome.filtered profile record').1.outcome
    s.filterMethod = .censor → s.preserveFirst = false → s.preserveLast = false →
    current.allowList = ⟨[], []⟩ → ForeignMask s.censorCharacter →
    (∀ o ∈ current.terms, o.ExactWithout s s.censorCharacter) →
    second.matched = [] ∧ second.modified = false ∧ second.filtered = first.1.outcome.filtered := by
  intro current s first second hMethod hFirst hLast hAllowed foreign hTerms
  let ctx := current.context first.2.selector
  let terms := (current.freshSet (current.resolve profile)).terms
  have hSecond : second = if s.filterMethod = .off ∨ first.1.outcome.filtered = "" then
      .unchanged first.1.outcome.filtered
      else ((current.freshSet (current.resolve profile)).expurgate ctx
        first.1.outcome.filtered).1 :=
    outcome_again c selector before text _ profile profile record record'
  have hOn : s.filterMethod ≠ .off := by
    rw [hMethod]
    nofun
  by_cases hNone : first.1.outcome.filtered = ""
  · rw [hSecond, if_pos (.inr hNone)]
    exact ⟨rfl, rfl, rfl⟩
  · rw [if_neg (not_or.mpr ⟨hOn, hNone⟩)] at hSecond
    have hText : text ≠ "" := by
      rintro rfl
      apply hNone
      rw [outcome_after, if_pos (.inr rfl)]
      rfl
    let chooser := ((new c selector).after before).selector
    have hFiltered : first.1.outcome.filtered.toList =
        (passes (current.context chooser) terms text.toList.toArray .empty).text.toList :=
      filtered_after c selector before profile record hOn hText
    have conceals : (current.context chooser).Conceals s.censorCharacter := by
      refine ⟨hMethod, rfl, hFirst, hLast, ?_, foreign⟩
      rw [Config.context, hAllowed]
      rfl
    have hPrepared : ∀ t ∈ terms, ∃ o, Term.Prepared o s t ∧ o.ExactWithout s s.censorCharacter :=
      fun t ht => by
        obtain ⟨o, ho, prepared⟩ := current.prepared_of_mem_freshSet _ t ht
        exact ⟨o, prepared, hTerms o ho⟩
    have hSilent := (clear_passes conceals hPrepared text.toList.toArray .empty).2
    rw [TermSet.expurgate, hFiltered, Array.toArray_toList, passes_of_silent hSilent, ← hFiltered,
      String.ofList_toList] at hSecond
    rw [hSecond]
    exact ⟨rfl, decide_eq_false (not_not_intro rfl), rfl⟩

/-- Two terms that share a word, under masks of three characters. -/
theorem expurgate_idempotent_phrase :
    let settings : Settings :=
      { Settings.default with preserveFirst := false, censorFixedLength := 3 }
    let c : Config := { Config.empty with
      settings := settings
      terms := [.ofText "hell", .ofText "go to hell"] }
    let first := (new c (.fixed 0)).expurgate "go to hell, Hell" .all true
    let second := (first.2.expurgate first.1.outcome.filtered .all true).1.outcome
    ForeignMask settings.censorCharacter ∧
      (∀ o ∈ c.terms, o.ExactWithout settings settings.censorCharacter) ∧
      second.matched = [] ∧ second.modified = false ∧
      second.filtered = first.1.outcome.filtered := by
  intro settings c first second
  have foreign : ForeignMask settings.censorCharacter := ⟨by decide, nofun, nofun⟩
  have hFree {l : List Char} (hNone : l.any (sameFold · '*') = false) :
      ∀ d ∈ l, sameFold d '*' = false := fun d hd =>
    Bool.eq_false_iff.mpr (List.any_eq_false.mp hNone d hd)
  have hTerms : ∀ o ∈ c.terms, o.ExactWithout settings settings.censorCharacter := by
    refine List.forall_mem_cons.mpr ⟨?_, List.forall_mem_singleton.mpr ?_⟩ <;>
      exact ⟨by decide, by decide, wordEdged_iff.mpr (by decide), hFree (by decide +kernel)⟩
  exact ⟨foreign, hTerms, expurgate_idempotent c (.fixed 0) [] "go to hell, Hell" .all true true rfl
    rfl rfl rfl foreign hTerms⟩

end Engine

end Expurgate
