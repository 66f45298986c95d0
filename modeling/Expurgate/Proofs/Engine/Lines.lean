import Expurgate.Proofs.Engine.Idempotence
import Expurgate.Proofs.Term.Itself
import Expurgate.Proofs.Term.Lines

/-! Expurgating two texts with a line feed between them. Where plain terms are masked or substituted,
no words are allowed and no line feed is put in, a turn treats the two texts as if each stood alone,
and so do all turns together. -/
namespace Expurgate

/-- An edit of a text that stands further behind in another one. -/
def Edit.shift (off : Nat) (e : Edit) : Edit := ⟨⟨off + e.span.start, off + e.span.stop⟩, e.text⟩

theorem Span.mem_of_mem_text {s : Span} {h : Array Char} {c : Char} (hMem : c ∈ s.text h) :
    c ∈ h.toList := by
  rw [Span.text_eq] at hMem
  exact List.mem_of_mem_drop (List.mem_of_mem_take hMem)

/-- A span inside a window reads the same in the window and in the whole, moved by the offset. -/
theorem Window.text {H h : Array Char} {off i j : Nat} (w : Window H h off) (hTo : j ≤ h.size) :
    Span.text ⟨off + i, off + j⟩ H = Span.text ⟨i, j⟩ h := by
  have hShort {p q n : Nat} {g : Array Char} (hn : q - p ≤ n) : (Span.text ⟨p, q⟩ g)[n]? = none := by
    rw [Span.text_eq]
    exact List.getElem?_eq_none (Nat.le_trans (List.length_take_le _ _) hn)
  refine List.ext_getElem? fun n => ?_
  by_cases hn : i + n < j
  · rw [Span.getElem?_text n (by omega), Span.getElem?_text n hn, Nat.add_assoc,
      w.same _ (by omega)]
  · rw [hShort (by omega), hShort (by omega)]

section Patch

variable {H h a b : Array Char} {off size start : Nat} {edits edits' : List Edit}

/-- Edits that are in order stay so when all are moved by the same distance. -/
theorem InOrder.shift (order : InOrder size start edits) (off : Nat) :
    InOrder (off + size) (off + start) (edits.map (Edit.shift off)) := by
  induction order with
  | nil hStart => exact .nil (Nat.add_le_add_left hStart off)
  | cons hFrom hLe _ ih =>
      exact .cons (Nat.add_le_add_left hFrom off) (Nat.add_le_add_left hLe off) ih

/-- To edit a window is to edit the whole with the edits moved. What stands in front of the window
is left out on both sides. -/
theorem patch_shift (w : Window H h off) (hSize : off + h.size = H.size)
    (order : InOrder h.size start edits) :
    patch H (off + start) (edits.map (Edit.shift off)) = patch h start edits := by
  induction order with
  | nil =>
      rw [List.map_nil, patch, patch, ← hSize]
      exact w.text (Nat.le_refl _)
  | @cons start e rest _ hLe tail ih =>
      have hTo : e.span.start ≤ h.size := Nat.le_trans hLe tail.le
      rw [List.map_cons, patch, patch, ← ih, ← w.text hTo]
      rfl

/-- Edits of two texts with a line feed between them leave the edited texts with a line feed between
them. -/
theorem patch_joinLines (first : InOrder a.size start edits) (second : InOrder b.size 0 edits') :
    patch (joinLines a b) start (edits ++ edits'.map (Edit.shift (a.size + 1))) =
      patch a start edits ++ '\n' :: patch b 0 edits' := by
  have hLine {i j : Nat} (hTo : j ≤ a.size) :
      Span.text ⟨i, j⟩ (joinLines a b) = Span.text ⟨i, j⟩ a := by
    have hText := (window_joinLines_left a b).text (i := i) hTo
    rwa [Nat.zero_add, Nat.zero_add] at hText
  induction first with
  | nil hStart =>
      have order := second.shift (a.size + 1)
      rw [← size_joinLines] at order
      have hFeed : Span.text ⟨a.size, a.size + 1⟩ (joinLines a b) = ['\n'] :=
        Span.text_succ (joinLines_get_feed a b)
      rw [List.nil_append, ← patch_earlier order hStart (Nat.le_succ _), hFeed,
        hLine (Nat.le_refl _),
        patch_shift (window_joinLines_right a b) (size_joinLines a b).symm second, patch,
        List.append_assoc, List.singleton_append]
  | @cons start e rest _ hLe tail ih =>
      rw [List.cons_append, patch, patch, ih, hLine (Nat.le_trans hLe tail.le), List.append_assoc,
        List.append_assoc, List.append_assoc]

/-- Every character of an edited text was there before or was put in by one of the edits. -/
theorem mem_patch {c : Char} (hMem : c ∈ patch h start edits) :
    c ∈ h.toList ∨ ∃ e ∈ edits, c ∈ e.text := by
  induction edits generalizing start with
  | nil => exact .inl (Span.mem_of_mem_text hMem)
  | cons e rest ih =>
      rcases List.mem_append.mp hMem with hFront | hRest
      · rcases List.mem_append.mp hFront with hGap | hEdit
        · exact .inl (Span.mem_of_mem_text hGap)
        · exact .inr ⟨e, List.mem_cons_self, hEdit⟩
      · rcases ih hRest with hOld | ⟨d, hd, hEdit⟩
        · exact .inl hOld
        · exact .inr ⟨d, List.mem_cons_of_mem _ hd, hEdit⟩

end Patch

/-- What a match tells, apart from its place. -/
def TermMatch.change (m : TermMatch) : String × String × String := (m.key, m.found, m.replacement)

/-- Where nothing is left to choose, a turn tells of all matches that it replaces. -/
theorem Turn.matched_result (ctx : PassContext) (u : Turn)
    (hFew : ctx.replacer.choices u.term ≤ 1) :
    (u.result ctx).matched = (u.replaced ctx).map (ctx.record u.term u.text) := by
  have hEach (cs : List Captures) (cache : TokenCache) :
      ((resolveAll ctx u.term u.text cs cache).1.map (·.2)).filterMap (·.match?) =
        (replacedIn ctx u.term u.text cs cache).map (ctx.record u.term u.text) := by
    induction cs generalizing cache with
    | nil => rfl
    | cons c rest ih =>
        have hSame := @after_of_steady ctx u.term (.inl hFew) u.text c cache
        simp only [resolveAll, replacedIn, List.map_cons, List.filterMap_cons, List.map_append,
          hSame, ih]
        cases hSplit : u.term.split c with
        | none => simp [resolve, hSplit, Resolution.match?]
        | some m =>
            by_cases hContent : m.content.text u.text = []
            · simp [resolve, hSplit, hContent, Resolution.match?]
            · cases hExempt : (ctx.allowList.exempts u.term m u.text cache).1 with
              | true => simp [resolve_exempt hSplit hExempt]
              | false => simp [resolve_replaced hSplit hContent hExempt]
  rw [result, Term.pass, resolveAll_congr (ctx.choosing u.selector) ctx rfl rfl hFew]
  exact hEach _ _

/-- What takes the place of a match depends on the text of the match, and not on where it stands.
Boundaries are a different matter, so this is about plain matches. -/
theorem Replacer.replacement_plain {r : Replacer} (hs : r.settings.KeepsLines) (t : Term)
    {s s' : Span} {h h' : Array Char} (hText : s.text h = s'.text h') :
    r.replacement t (.plain s) h = r.replacement t (.plain s') h' := by
  rcases hs.method with hMethod | hMethod <;>
    simp only [replacement, hMethod, reattach, MatchParts.content, hText]

/-- A match of a plain term. -/
def Captures.plain (c : Captures) : MatchParts := .plain ⟨c.start, c.stop⟩

section Strict

variable {ctx : PassContext}

/-- Lines are edited in a text as they are alone. -/
theorem Window.edit_plain {H h : Array Char} {off : Nat} (w : Window H h off)
    (hs : ctx.replacer.settings.KeepsLines) (t : Term) {c : Captures} (hTo : c.stop ≤ h.size) :
    ctx.edit t H (c.shift off).plain = (ctx.edit t h c.plain).shift off ∧
      (ctx.record t H (c.shift off).plain).change = (ctx.record t h c.plain).change := by
  have hText : Span.text ⟨off + c.start, off + c.stop⟩ H = Span.text ⟨c.start, c.stop⟩ h :=
    w.text hTo
  have hReplacement := Replacer.replacement_plain hs t hText
  simp only [PassContext.edit, PassContext.record, TermMatch.change, Edit.shift, Captures.plain,
    Captures.shift, MatchParts.raw, MatchParts.content, hText, hReplacement, and_self]

variable (hStrict : ctx.allowList.isEmpty = true)
include hStrict

/-- Every match of a plain term that is not empty is replaced. -/
theorem replacedIn_plain {t : Term} (hShape : t.shape = .plain) {h : Array Char}
    {cs : List Captures} (hcs : ∀ c ∈ cs, c.start < c.stop ∧ c.stop ≤ h.size) (cache : TokenCache) :
    replacedIn ctx t h cs cache = cs.map Captures.plain := by
  induction cs generalizing cache with
  | nil => rfl
  | cons c rest ih =>
      obtain ⟨hFirst, hRest⟩ := List.forall_mem_cons.mp hcs
      have hSplit := Term.split_plain hShape c
      have hContent : (MatchParts.plain ⟨c.start, c.stop⟩).content.text h ≠ [] :=
        Span.text_ne_nil hFirst.1 hFirst.2
      have hExempt : (ctx.allowList.exempts t (.plain ⟨c.start, c.stop⟩) h cache).1 = false := by
        rw [AllowList.exempts, if_pos hStrict]
      simp only [replacedIn, resolve_replaced hSplit hContent hExempt, hSplit, ih hRest]
      rfl

/-- A plain term that finds itself has its own text replaced as a whole. -/
theorem Turn.result_itself {o : TermOptions} {t : Term}
    (ht : Term.Prepared o ctx.replacer.settings t) (keeps : t.KeepsLines) (finds : t.FindsItself)
    (cache : TokenCache) (s : Selector) :
    ((⟨t, t.text.toList.toArray, cache, s⟩ : Turn).result ctx).text.toList =
      (ctx.choosing s).replacer.replacement t (.plain ⟨0, t.text.toList.length⟩) t.text.toList.toArray := by
  obtain ⟨d, m, hOnly, hSplit, hContent⟩ := finds
  have hAll : m.content.text t.text.toList.toArray = t.text.toList := by
    rw [hContent]
    exact Span.text_zero_size t.text.toList.toArray
  have hText : m.content.text t.text.toList.toArray ≠ [] := by
    rw [hAll, ht.text]
    exact ht.toList_ne_nil
  rw [Turn.result_alone hStrict hOnly hSplit hText]
  rw [Term.split_plain keeps.shape] at hSplit
  obtain rfl := Option.some.inj hSplit
  obtain ⟨hStart, hStop⟩ := Span.mk.inj hContent
  rw [hStart, hStop]
  simp [Span.text_eq]

variable (hs : ctx.replacer.settings.KeepsLines)
include hs

/-- On two texts with a line feed between them a term has its turn on each. -/
theorem Turn.result_joinLines {o : TermOptions} {t : Term}
    (ht : Term.Prepared o ctx.replacer.settings t) (keeps : t.KeepsLines) (a b : Array Char)
    (cache cacheA cacheB : TokenCache) (s : Selector) :
    let whole := (⟨t, joinLines a b, cache, s⟩ : Turn).result ctx
    let first := (⟨t, a, cacheA, s⟩ : Turn).result ctx
    let second := (⟨t, b, cacheB, s⟩ : Turn).result ctx
    whole.text = joinLines first.text second.text ∧
      whole.matched.map TermMatch.change =
        first.matched.map TermMatch.change ++ second.matched.map TermMatch.change := by
  intro whole first second
  have hMethod : o.methodIn ctx.replacer.settings ≠ .regex := ht.method ▸ keeps.method
  have hFew : ctx.replacer.choices t ≤ 1 := Replacer.choices_of_single keeps.single _
  have hBounds (h : Array Char) : ∀ c ∈ t.occurrences h, c.start < c.stop ∧ c.stop ≤ h.size :=
    fun c hMem => ht.bounds_of_mem hMethod hMem
  have hReplaced (h : Array Char) (cache : TokenCache) :
      (⟨t, h, cache, s⟩ : Turn).replaced ctx = (t.occurrences h).map Captures.plain :=
    replacedIn_plain hStrict keeps.shape (hBounds h) cache
  have hEdited (h : Array Char) (cache : TokenCache) : (⟨t, h, cache, s⟩ : Turn).edits ctx =
      ((t.occurrences h).map Captures.plain).map (ctx.edit t h) := by
    rw [Turn.edits_of_few _ hFew, hReplaced]
  have hLeft : ∀ c ∈ t.occurrences a,
      ctx.edit t (joinLines a b) c.plain = ctx.edit t a c.plain ∧
        (ctx.record t (joinLines a b) c.plain).change = (ctx.record t a c.plain).change := by
    intro c hMem
    have hSame := (window_joinLines_left a b).edit_plain hs t (hBounds a c hMem).2
    simpa only [Captures.shift, Edit.shift, Nat.zero_add] using hSame
  have hRight : ∀ c ∈ t.occurrences b, _ := fun c hMem =>
    (window_joinLines_right a b).edit_plain hs t (hBounds b c hMem).2
  have hFound := ht.occurrences_joinLines hs keeps a b
  constructor
  · have hEdits : (⟨t, joinLines a b, cache, s⟩ : Turn).edits ctx =
        (⟨t, a, cacheA, s⟩ : Turn).edits ctx ++
          ((⟨t, b, cacheB, s⟩ : Turn).edits ctx).map (Edit.shift (a.size + 1)) := by
      simp only [hEdited, hFound, List.map_append, List.map_map]
      exact congrArg₂ _ (List.map_congr_left fun c hMem => (hLeft c hMem).1)
        (List.map_congr_left fun c hMem => (hRight c hMem).1)
    obtain ⟨orderA, hA⟩ := Turn.edits_inOrder ctx ⟨t, a, cacheA, s⟩
    obtain ⟨orderB, hB⟩ := Turn.edits_inOrder ctx ⟨t, b, cacheB, s⟩
    have hWhole := (Turn.edits_inOrder ctx ⟨t, joinLines a b, cache, s⟩).2
    rw [hEdits, patch_joinLines orderA orderB, ← hA, ← hB, ← toList_joinLines] at hWhole
    exact Array.toList_inj.mp hWhole
  · have hTold (h : Array Char) (cache : TokenCache) :
        ((⟨t, h, cache, s⟩ : Turn).result ctx).matched =
          ((t.occurrences h).map Captures.plain).map (ctx.record t h) := by
      rw [Turn.matched_result ctx _ hFew, hReplaced]
    simp only [whole, first, second, hTold, hFound, List.map_append, List.map_map]
    exact congrArg₂ _ (List.map_congr_left fun c hMem => (hLeft c hMem).2)
      (List.map_congr_left fun c hMem => (hRight c hMem).2)

/-- On two texts with a line feed between them several terms have their turns on each. The matches are
the same, though not in the same order. -/
theorem passes_joinLines {terms : List Term}
    (hTerms : ∀ t ∈ terms, t.KeepsLines ∧ ∃ o, Term.Prepared o ctx.replacer.settings t)
    (a b : Array Char) (cache cacheA cacheB : TokenCache) :
    let whole := passes ctx terms (joinLines a b) cache
    let first := passes ctx terms a cacheA
    let second := passes ctx terms b cacheB
    whole.text = joinLines first.text second.text ∧
      (whole.matched.map TermMatch.change).Perm
        (first.matched.map TermMatch.change ++ second.matched.map TermMatch.change) := by
  induction terms generalizing a b cache cacheA cacheB with
  | nil => exact ⟨rfl, .refl _⟩
  | cons t rest ih =>
      obtain ⟨⟨keeps, o, ht⟩, hRest⟩ := List.forall_mem_cons.mp hTerms
      have hFew : ctx.replacer.choices t ≤ 1 := Replacer.choices_of_single keeps.single _
      obtain ⟨hText, hMatched⟩ :=
        Turn.result_joinLines hStrict hs ht keeps a b cache cacheA cacheB ctx.replacer.selector
      obtain ⟨hTexts, hOthers⟩ := ih hRest _ _ (t.pass ctx (joinLines a b) cache).2
        (t.pass ctx a cacheA).2 (t.pass ctx b cacheB).2
      simp only [Turn.result, PassContext.choosing_self,
        PassResult.matched] at hText hMatched hTexts hOthers
      simp only [passes, after_pass_of_few hFew, PassResult.matched, List.filterMap_append,
        List.map_append, hText, hMatched, List.append_assoc]
      refine ⟨hTexts, .append_left _ ((hOthers.append_left _).trans ?_)⟩
      rw [← List.append_assoc, ← List.append_assoc]
      exact List.perm_append_comm.append_right _

end Strict

section Passes

variable {ctx : PassContext} {terms : List Term}

/-- Without a line feed a text is given none. -/
theorem feed_not_mem_passes (hs : ctx.replacer.settings.KeepsLines)
    (hTerms : ∀ t ∈ terms, t.KeepsLines) {h : Array Char} (cache : TokenCache)
    (hText : '\n' ∉ h.toList) : '\n' ∉ (passes ctx terms h cache).text.toList := by
  refine passes_relates (R := fun l l' => '\n' ∉ l → '\n' ∉ l') (fun _ => id)
    (fun _ _ _ first second hl => second (first hl)) ?_ hText
  intro u hu hBefore hMem
  have keeps := hTerms _ (term_of_mem_turns hu)
  rw [(u.edits_inOrder ctx).2] at hMem
  rcases mem_patch hMem with hKept | ⟨e, he, hEdit⟩
  · exact hBefore hKept
  · rw [u.edits_of_few (Replacer.choices_of_single keeps.single _)] at he
    obtain ⟨m, hm, rfl⟩ := List.mem_map.mp he
    obtain ⟨c, -, hSplit, -⟩ := mem_replacedIn hm
    rw [Term.split_plain keeps.shape] at hSplit
    obtain rfl := Option.some.inj hSplit
    exact Replacer.feed_not_mem_replacement hs keeps
      (fun hIn => hBefore (Span.mem_of_mem_text hIn)) hEdit

/-- Terms that keep lines apart match no empty text, so there is nothing to decide about one. -/
theorem passes_empty (hTerms : ∀ t ∈ terms, t.KeepsLines ∧
    ∃ o, Term.Prepared o ctx.replacer.settings t) (cache : TokenCache) :
    passes ctx terms #[] cache = ⟨#[], []⟩ := by
  refine passes_of_silent fun t hMem => ?_
  obtain ⟨keeps, o, ht⟩ := hTerms t hMem
  exact ht.occurrences_empty (ht.method ▸ keeps.method)

end Passes

/-- Under this configuration a profile masks or substitutes plain terms, allows no words, and has no
line feed to put in. -/
structure Config.KeepsLines (c : Config) (profile : ProfileId) : Prop where
  settings : c.settings.KeepsLines
  strict : c.allowList = ⟨[], []⟩
  terms : ∀ t ∈ (c.freshSet (c.resolve profile)).terms, t.KeepsLines

/-- It is enough to look at the terms as they are configured. -/
theorem Config.keepsLines_of_options {c : Config} (hs : c.settings.KeepsLines)
    (hStrict : c.allowList = ⟨[], []⟩) (hTerms : ∀ o ∈ c.terms, o.KeepsLines c.settings)
    (profile : ProfileId) : c.KeepsLines profile := by
  refine ⟨hs, hStrict, fun t hMem => ?_⟩
  obtain ⟨o, ho, hCompile⟩ := c.compile_of_mem_freshSet _ t hMem
  exact (hTerms o ho).compiled hCompile

namespace Config

/-- What the terms of a profile make of a text. -/
def cleaned (c : Config) (selector : Selector) (profile : ProfileId) (l : List Char) : PassResult :=
  passes (c.context selector) (c.freshSet (c.resolve profile)).terms l.toArray .empty

/-- The text that is left of it. -/
def cleanedText (c : Config) (selector : Selector) (profile : ProfileId) (l : List Char) :
    List Char :=
  (c.cleaned selector profile l).text.toList

namespace KeepsLines

variable {c : Config} {profile : ProfileId} (keeps : c.KeepsLines profile)
include keeps

/-- The terms of a fresh set keep lines apart, and each was prepared from options of the
configuration. This is what the passes ask of their terms. -/
theorem prepared : ∀ t ∈ (c.freshSet (c.resolve profile)).terms,
    t.KeepsLines ∧ ∃ o, Term.Prepared o c.settings t := by
  intro t hMem
  obtain ⟨o, -, ht⟩ := c.prepared_of_mem_freshSet _ t hMem
  exact ⟨keeps.terms t hMem, o, ht⟩

/-- It does not matter who chooses. -/
theorem cleaned_congr (selector selector' : Selector) (l : List Char) :
    c.cleaned selector profile l = c.cleaned selector' profile l := by
  exact passes_congr _ _ rfl rfl fun t hMem =>
    Replacer.choices_of_single (keeps.terms t hMem).single _

/-- An empty text is left as it is, with nothing logged or drawn. -/
theorem cleaned_nil (selector : Selector) : c.cleaned selector profile [] = ⟨#[], []⟩ :=
  passes_empty keeps.prepared .empty

/-- The choices have no part in what is left of a line, since a configuration that keeps lines apart
has at most one word to choose for each term. -/
theorem cleanedText_congr (selector selector' : Selector) (l : List Char) :
    c.cleanedText selector profile l = c.cleanedText selector' profile l := by
  rw [cleanedText, cleanedText, keeps.cleaned_congr selector selector']

theorem cleanedText_nil (selector : Selector) : c.cleanedText selector profile [] = [] := by
  rw [cleanedText, keeps.cleaned_nil]

/-- No line is broken by what is put into it. This is what makes the lines of the cleaned text those
of the text, each cleaned. -/
theorem feed_not_mem_cleanedText (selector : Selector) {l : List Char} (hText : '\n' ∉ l) :
    '\n' ∉ c.cleanedText selector profile l :=
  feed_not_mem_passes keeps.settings keeps.terms .empty (by simpa using hText)

/-- Lines are cleaned one by one. -/
theorem cleaned_append (selector : Selector) (l l' : List Char) :
    let clean := c.cleaned selector profile
    c.cleanedText selector profile (l ++ '\n' :: l') =
        c.cleanedText selector profile l ++ '\n' :: c.cleanedText selector profile l' ∧
      ((clean (l ++ '\n' :: l')).matched.map TermMatch.change).Perm
        ((clean l).matched.map TermMatch.change ++ (clean l').matched.map TermMatch.change) := by
  have hStrict : (c.context selector).allowList.isEmpty = true := by
    rw [show (c.context selector).allowList = .ofEntries c.allowList from rfl, keeps.strict]
    rfl
  have hJoin : (l ++ '\n' :: l').toArray = joinLines l.toArray l'.toArray := by
    simp [joinLines]
  obtain ⟨hText, hMatched⟩ := passes_joinLines hStrict keeps.settings keeps.prepared l.toArray
    l'.toArray .empty .empty .empty
  simp only [cleanedText, cleaned, hJoin]
  exact ⟨by rw [hText, toList_joinLines], hMatched⟩

end KeepsLines

end Config

end Expurgate
