import Expurgate.Proofs.Engine.Lines
import Expurgate.Proofs.Engine.Shadowing
import Expurgate.Proofs.Replacer

/-! What the debug log tells of the matches that were replaced, where matched text must not show.
Keys and matches are masked, but the replacements are not. So under a method that censors, the log
shows what stands around a match, and the characters that a mask keeps, and nothing else but
lengths. -/
namespace Expurgate

/-- Whether a record is about a match that was replaced. -/
def LogRecord.isReplacement : LogRecord → Bool
  | replace .. => true
  | exempt .. => false

/-- The lines about replaced matches, where matched text must not show. -/
def Expurgated.replacementLines (x : Expurgated) : List String :=
  (x.log.filter (·.isReplacement)).map (·.line false)

/-- A match that is replaced, in the text that its term has its turn on. -/
structure Finding where
  term : Term
  text : Array Char
  parts : MatchParts

namespace Finding

variable (f : Finding)

def raw : List Char := f.parts.raw.text f.text

def content : List Char := f.parts.content.text f.text

def leading : List Char :=
  match f.parts with
  | .plain _ => []
  | .bounded _ leading _ _ => leading.text f.text

def trailing : List Char :=
  match f.parts with
  | .plain _ => []
  | .bounded _ _ _ trailing => trailing.text f.text

/-- The key of the term, with the lengths of the match and of its content. -/
def size : String × Nat × Nat := (f.term.text, f.raw.length, f.content.length)

end Finding

/-- What may be seen of a match where it is masked. -/
structure Exposure where
  leading : List Char
  trailing : List Char
  first : Option Char
  last : Option Char
  deriving Repr, DecidableEq

/-- What the settings expose of a match. -/
def Finding.exposed (s : Settings) (f : Finding) : Exposure where
  leading := f.leading
  trailing := f.trailing
  first := if s.preserveFirst then f.content.head? else none
  last := if s.preserveLast then f.content.getLast? else none

/-- Lists of the same sizes agree in two things if those that are of one size do. -/
theorem map_eq_map_iff {α β γ δ ε : Type} {size : α → β} {F : α → γ} {K : α → δ} {G : α → ε}
    {l l' : List α} (hSizes : l.map size = l'.map size)
    (hEach : ∀ a b, size a = size b → (F a = F b ∧ K a = K b ↔ G a = G b)) :
    l.map F = l'.map F ∧ l.map K = l'.map K ↔ l.map G = l'.map G := by
  induction l generalizing l' with
  | nil =>
      obtain rfl : l' = [] := by simpa using hSizes.symm
      simp
  | cons a rest ih =>
      cases l' with
      | nil => simp at hSizes
      | cons b rest' =>
          obtain ⟨hSize, hRest⟩ := List.cons.inj hSizes
          simp only [List.map_cons, List.cons.injEq, ← hEach a b hSize, ← ih hRest]
          exact and_and_and_comm

/-- A mask in the log depends on the length of what it hides. -/
theorem maskSensitive_congr {s s' : String} (hLength : s.length = s'.length) :
    maskSensitive s = maskSensitive s' := by
  rw [maskSensitive, maskSensitive, hLength]

/-- In a line about a replaced match, the replacement is all that is not masked. -/
theorem LogRecord.line_replace (key raw shown : String) :
    (replace key raw shown).line false =
      s!"Rewrite: term='{maskSensitive key}', original='{maskSensitive raw}', replacement='" ++
        shown ++ "'" := rfl

/-- Two log lines about matches of equal length differ only in the replacement that they show. The
matched text itself is not told where it is not to be exposed. -/
theorem LogRecord.line_eq_iff {key raw raw' shown shown' : String}
    (hLength : raw.length = raw'.length) :
    (replace key raw shown).line false = (replace key raw' shown').line false ↔
      shown = shown' := by
  rw [line_replace, line_replace, maskSensitive_congr hLength, String.append_left_inj,
    String.append_right_inj]

namespace Finding

variable {f g : Finding} {r : Replacer}

/-- What is logged of the match. -/
def logged (r : Replacer) (f : Finding) : LogRecord :=
  .replace f.term.text (String.ofList f.raw)
    (String.ofList (r.replacement f.term f.parts f.text))

/-- The parts of a finding tile it, so its text is that of its parts, one after the other. -/
theorem raw_eq {p q : Nat} (tiles : Term.Tiles p q f.parts) :
    f.raw = f.leading ++ f.content ++ f.trailing := by
  obtain ⟨t, h, m⟩ := f
  cases tiles with
  | plain => simp [raw, leading, content, trailing, MatchParts.raw, MatchParts.content]
  | bounded hLeading hContent hTrailing =>
      simp only [raw, leading, content, trailing, MatchParts.raw, MatchParts.content]
      rw [Span.text_append hLeading hContent, Span.text_append (by omega) hTrailing]

/-- The boundaries stay as they are around the mask, and so they are shown with the replacement. -/
theorem replacement_eq (hMethod : r.settings.filterMethod = .censor) (f : Finding) :
    r.replacement f.term f.parts f.text = f.leading ++ r.censor f.content ++ f.trailing := by
  obtain ⟨t, h, m⟩ := f
  rw [Replacer.replacement, hMethod]
  cases m with
  | plain => simp [Replacer.reattach, leading, content, trailing]
  | bounded => rfl

/-- What replaces two matches of one size shows what is exposed of them. -/
theorem replacement_eq_iff (hMethod : r.settings.filterMethod = .censor)
    (hSize : f.size = g.size) :
    r.replacement f.term f.parts f.text = r.replacement g.term g.parts g.text ∧
        f.leading.length = g.leading.length ↔
      f.exposed r.settings = g.exposed r.settings := by
  obtain ⟨-, hSizes⟩ := Prod.mk.inj hSize
  obtain ⟨hRaw, hContent⟩ := Prod.mk.inj hSizes
  have hCensor := censorWord_eq_iff hContent r.settings.censorCharacter
    r.settings.censorFixedLength r.settings.preserveFirst r.settings.preserveLast
  rw [replacement_eq hMethod, replacement_eq hMethod]
  constructor
  · rintro ⟨hEq, hLeading⟩
    rw [List.append_assoc, List.append_assoc] at hEq
    obtain ⟨hFront, hBehind⟩ := List.append_inj hEq hLeading
    obtain ⟨hMask, hBack⟩ := List.append_inj hBehind (length_censorWord_congr hContent _ _ _ _)
    obtain ⟨hFirst, hLast⟩ := hCensor.mp hMask
    simp only [exposed, hFront, hBack, hFirst, hLast]
  · intro hExposed
    obtain ⟨hFront, hBack, hFirst, hLast⟩ := Exposure.mk.inj hExposed
    have hMask : r.censor f.content = r.censor g.content := hCensor.mpr ⟨hFirst, hLast⟩
    rw [hFront, hBack, hMask]
    exact ⟨rfl, rfl⟩

/-- The lines about two matches of one size show what is exposed of them. -/
theorem line_logged_eq_iff (hMethod : r.settings.filterMethod = .censor) (hSize : f.size = g.size) :
    (f.logged r).line false = (g.logged r).line false ∧ f.leading.length = g.leading.length ↔
      f.exposed r.settings = g.exposed r.settings := by
  obtain ⟨hKey, hSizes⟩ := Prod.mk.inj hSize
  have hRaw : (String.ofList f.raw).length = (String.ofList g.raw).length := by
    rw [String.length_ofList, String.length_ofList]
    exact (Prod.mk.inj hSizes).1
  rw [← replacement_eq_iff hMethod hSize, logged, logged, hKey, LogRecord.line_eq_iff hRaw,
    String.ofList_inj]

/-- Where nothing stands around a content and no characters are kept, nothing is exposed. -/
theorem exposed_eq_nothing {s : Settings} (hBare : f.leading = [] ∧ f.trailing = [])
    (hFirst : s.preserveFirst = false) (hLast : s.preserveLast = false) :
    f.exposed s = ⟨[], [], none, none⟩ := by
  simp [exposed, hBare, hFirst, hLast]

end Finding

section Turns

variable (ctx : PassContext) (t : Term) (h : Array Char)

/-- A match leaves a line of its own in the log if it is replaced. -/
theorem resolve_record (c : Captures) (cache : TokenCache) :
    let res := (resolve ctx t h c cache).1
    (res.match? = none ∧ ∀ record ∈ res.record?, record.isReplacement = false) ∨
    ∃ m, t.split c = some m ∧ res.match?.isSome = true ∧
      res.record? = some (Finding.logged ctx.replacer ⟨t, h, m⟩) := by
  cases hSplit : t.split c with
  | none =>
      simp only [resolve, hSplit]
      exact .inl ⟨rfl, fun record hRecord => by cases hRecord⟩
  | some m =>
      simp only [resolve, hSplit]
      split
      · exact .inl ⟨rfl, fun record hRecord => by cases hRecord⟩
      · split
        · refine .inl ⟨rfl, fun record hRecord => ?_⟩
          obtain rfl := Option.some.inj hRecord
          rfl
        · exact .inr ⟨m, rfl, rfl, rfl⟩

/-- The matches that are logged as replaced are those that the allow list does not exempt, in the
order of the text. -/
theorem logged_resolveAll (hFew : ctx.replacer.choices t ≤ 1) (cs : List Captures)
    (cache : TokenCache) :
    (((resolveAll ctx t h cs cache).1.map (·.2)).filterMap (·.record?)).filter
        (·.isReplacement) =
      (replacedIn ctx t h cs cache).map fun m => Finding.logged ctx.replacer ⟨t, h, m⟩ := by
  induction cs generalizing cache with
  | nil => rfl
  | cons c rest ih =>
      simp only [resolveAll, replacedIn, after_of_steady (.inl hFew), List.map_cons,
        List.filterMap_cons, List.map_append]
      rcases resolve_record ctx t h c cache with ⟨hNone, hSilent⟩ | ⟨m, hSplit, hSome, hRecord⟩
      · rw [hNone]
        cases hRecord : (resolve ctx t h c cache).1.record? with
        | none => simpa using ih _
        | some record =>
            have hExempt : record.isReplacement = false := hSilent record hRecord
            simpa [hExempt] using ih _
      · simp only [hRecord, hSome, hSplit, if_true]
        simpa [Finding.logged, LogRecord.isReplacement] using ih _

end Turns

/-- The matches that a turn replaces. -/
def Turn.findings (ctx : PassContext) (u : Turn) : List Finding :=
  (u.replaced ctx).map (⟨u.term, u.text, ·⟩)

/-- What a turn logs about its replacements can be told from its findings, as long as its term
leaves no choice. -/
theorem Turn.logged_result (ctx : PassContext) (u : Turn)
    (hFew : ctx.replacer.choices u.term ≤ 1) :
    ((u.result ctx).decided.filterMap (·.record?)).filter (·.isReplacement) =
      (u.findings ctx).map (Finding.logged ctx.replacer) := by
  rw [findings, List.map_map, result, Term.pass,
    resolveAll_congr (ctx.choosing u.selector) ctx rfl rfl hFew]
  exact logged_resolveAll ctx u.term u.text hFew _ u.cache

/-- Which matches are found is up to the words that are allowed. -/
theorem Turn.findings_congr (ctx ctx' : PassContext) (hAllowed : ctx.allowList = ctx'.allowList)
    (u : Turn) : u.findings ctx = u.findings ctx' := by
  rw [findings, findings, replaced, replaced, replacedIn_congr ctx ctx' hAllowed]

/-- Where there is no choice, it does not matter who chooses. -/
theorem findings_turns_congr (ctx ctx' : PassContext) (hAllowed : ctx.allowList = ctx'.allowList)
    (hSettings : ctx.replacer.settings = ctx'.replacer.settings) {terms : List Term}
    (hFew : ∀ t ∈ terms, ctx.replacer.choices t ≤ 1) (h : Array Char) (cache : TokenCache) :
    (turns ctx terms h cache).flatMap (Turn.findings ctx) =
      (turns ctx' terms h cache).flatMap (Turn.findings ctx') := by
  induction terms generalizing h cache with
  | nil => rfl
  | cons t rest ih =>
      obtain ⟨hFirst, hRest⟩ := List.forall_mem_cons.mp hFew
      have hFirst' : ctx'.replacer.choices t ≤ 1 := by
        rwa [Replacer.choices, ← hSettings]
      have hPass : t.pass ctx h cache = t.pass ctx' h cache := by
        simp only [Term.pass, resolveAll_congr ctx ctx' hAllowed hSettings hFirst]
      have hNow : Turn.findings ctx ⟨t, h, cache, ctx.replacer.selector⟩ =
          Turn.findings ctx' ⟨t, h, cache, ctx'.replacer.selector⟩ :=
        Turn.findings_congr ctx ctx' hAllowed ⟨t, h, cache, ctx'.replacer.selector⟩
      have hSame : ctx.after (t.pass ctx h cache).1.decided = ctx := after_pass_of_few hFirst
      rw [hPass] at hSame
      simp only [turns, List.flatMap_cons, hNow, hPass, hSame, after_pass_of_few hFirst', ih hRest]

/-- A turn on no text has nothing to replace. -/
theorem Turn.replaced_empty (ctx : PassContext) (t : Term) (cache : TokenCache) (s : Selector) :
    (⟨t, #[], cache, s⟩ : Turn).replaced ctx = [] := by
  rw [List.eq_nil_iff_forall_not_mem]
  intro m hMem
  obtain ⟨c, -, -, hContent⟩ := mem_replacedIn hMem
  exact hContent (by simp [Span.text])

theorem findings_turns_empty (ctx : PassContext) (terms : List Term) (cache : TokenCache) :
    (turns ctx terms #[] cache).flatMap (Turn.findings ctx) = [] := by
  induction terms generalizing ctx cache with
  | nil => rfl
  | cons t rest ih =>
      have hNone := Turn.replaced_empty ctx t cache ctx.replacer.selector
      have hText : (t.pass ctx #[] cache).1.text = #[] :=
        text_pass_of_unmatched ((matched_pass_eq_nil_iff cache).mpr hNone)
      have hSame : Turn.findings (ctx.after (t.pass ctx #[] cache).1.decided) = Turn.findings ctx :=
        funext (Turn.findings_congr _ ctx rfl)
      have hRest := ih (ctx.after (t.pass ctx #[] cache).1.decided) (t.pass ctx #[] cache).2
      rw [hSame] at hRest
      rw [turns, List.flatMap_cons, Turn.findings, hNone]
      dsimp only
      rw [hText]
      exact hRest

/-- The matches that a request to expurgate a text replaces. -/
def Config.findings (c : Config) (selector : Selector) (profile : ProfileId) (text : String) :
    List Finding :=
  (c.turns selector profile text).flatMap (Turn.findings (c.context selector))

theorem Config.findings_empty (c : Config) (selector : Selector) (profile : ProfileId) :
    c.findings selector profile "" = [] := findings_turns_empty _ _ _

/-- Where there is no choice, a request finds the same whoever chooses. -/
theorem Config.findings_congr {c : Config} {profile : ProfileId}
    (hFew : ∀ t ∈ (c.freshSet (c.resolve profile)).terms, ∀ s, (c.context s).replacer.choices t ≤ 1)
    (selector selector' : Selector) (text : String) :
    c.findings selector profile text = c.findings selector' profile text :=
  findings_turns_congr (c.context selector) (c.context selector') rfl rfl
    (fun t hMem => hFew t hMem selector) _ _

/-- What is told of a replaced match. -/
def Finding.told (ctx : PassContext) (f : Finding) : TermMatch := ctx.record f.term f.text f.parts

section Mem

variable {c : Config} {selector : Selector} {profile : ProfileId} {text : String} {f : Finding}

/-- A finding comes from an occurrence of its term, and its parts tile that occurrence. -/
theorem Config.split_of_mem_findings (hMem : f ∈ c.findings selector profile text) :
    ∃ d, f.term.split d = some f.parts ∧ Term.Tiles d.start d.stop f.parts := by
  obtain ⟨u, hTurn, hFound⟩ := List.mem_flatMap.mp hMem
  obtain ⟨m, hReplaced, rfl⟩ := List.mem_map.mp hFound
  obtain ⟨o, -, ht⟩ := Config.prepared_of_mem_turns hTurn
  obtain ⟨d, hOccurs, hSplit, -⟩ := mem_replacedIn hReplaced
  have hLe : d.start ≤ d.stop := Program.successive_findAll.le_of_mem hOccurs
  obtain ⟨m', hSplit', tiles⟩ := ht.tiles_of_mem_occurrences hOccurs hLe
  obtain rfl := Option.some.inj (hSplit.symm.trans hSplit')
  exact ⟨d, hSplit, tiles⟩

/-- A match is made up of its content and what stands around it. -/
theorem Config.raw_of_mem_findings (hMem : f ∈ c.findings selector profile text) :
    f.raw = f.leading ++ f.content ++ f.trailing := by
  obtain ⟨d, -, tiles⟩ := split_of_mem_findings hMem
  exact Finding.raw_eq tiles

/-- Nothing stands around the content of a plain match. -/
theorem Config.bare_of_mem_findings (hMem : f ∈ c.findings selector profile text)
    (hShape : f.term.shape = .plain) : f.leading = [] ∧ f.trailing = [] := by
  obtain ⟨d, hSplit, -⟩ := split_of_mem_findings hMem
  rw [Term.split_plain hShape] at hSplit
  rw [Finding.leading, Finding.trailing, ← Option.some.inj hSplit]
  exact ⟨rfl, rfl⟩

end Mem

namespace Engine

section After

variable (c : Config) (selector : Selector) (before : List Operation) (text : String)
  (profile : ProfileId) (record : Bool)
  (hCensor : (c.after before).settings.filterMethod = .censor)

include hCensor

/-- A censored match is not replaced by a word, so there is none to choose. -/
theorem choices_le_of_censor (s : Selector) (t : Term) :
    ((c.after before).context s).replacer.choices t ≤ 1 := by
  refine Replacer.choices_of_method ?_ t
  rw [show ((c.after before).context s).replacer.settings = (c.after before).settings from rfl,
    hCensor]
  nofun

/-- What is told of an expurgation is told of its findings. -/
theorem told_after :
    let current := c.after before
    (((new c selector).after before).expurgate text profile record).1.outcome.matched =
      (current.findings selector profile text).map (Finding.told (current.context selector)) := by
  intro current
  let chooser := ((new c selector).after before).selector
  have hFew := choices_le_of_censor c before hCensor
  have hOn : current.settings.filterMethod ≠ .off := by simp [current, hCensor]
  have hRecord (f : Finding) :
      Finding.told (current.context chooser) f = Finding.told (current.context selector) f := by
    simp only [Finding.told, PassContext.record]
    rw [Replacer.replacement_congr (current.context chooser).replacer
      (current.context selector).replacer rfl (hFew chooser f.term)]
  rw [Config.findings_congr (fun t _ s => hFew s t) selector chooser]
  by_cases hText : text = ""
  · subst hText
    rw [outcome_after, if_pos (.inr rfl), Config.findings_empty]
    rfl
  · rw [matched_after c selector before profile record hOn hText, Config.findings,
      List.map_flatMap]
    refine List.flatMap_congr fun u _ => ?_
    rw [Turn.matched_result _ u (hFew chooser u.term), Turn.findings, List.map_map]
    exact List.map_congr_left fun m _ => hRecord ⟨u.term, u.text, m⟩

/-- What is logged of an expurgation is logged of its findings, apart from words that are allowed.
-/
theorem logged_after :
    let current := c.after before
    (((new c selector).after before).expurgate text profile record).1.log.filter
        (·.isReplacement) =
      (current.findings selector profile text).map
        (Finding.logged (current.context selector).replacer) := by
  intro current
  let chooser := ((new c selector).after before).selector
  have hFew := choices_le_of_censor c before hCensor
  have hConfig : ((new c selector).after before).config = current := config_after _ before
  have hContext : ((new c selector).after before).context = current.context chooser :=
    context_after c selector before
  have hLogged (f : Finding) : Finding.logged (current.context chooser).replacer f =
      Finding.logged (current.context selector).replacer f := by
    simp only [Finding.logged]
    rw [Replacer.replacement_congr (current.context chooser).replacer
      (current.context selector).replacer rfl (hFew chooser f.term)]
  rw [Config.findings_congr (fun t _ s => hFew s t) selector chooser, log_expurgate,
    ((Coherent.new c selector).after before).termSet_set, hConfig, hContext]
  by_cases hText : text = ""
  · subst hText
    rw [if_pos (.inr rfl), Config.findings_empty]
    rfl
  · have hOn : current.settings.filterMethod ≠ .off := by simp [current, hCensor]
    rw [if_neg (not_or.mpr ⟨hOn, hText⟩), Config.findings, List.map_flatMap]
    simp only [TermSet.expurgate, decided_passes, List.filterMap_flatMap, List.filter_flatMap]
    refine List.flatMap_congr fun u _ => ?_
    rw [Turn.logged_result _ u (hFew chooser u.term)]
    exact List.map_congr_left fun f _ => hLogged f

end After

/-- Two texts with findings of the same sizes leave the same lines about them exactly if the findings
expose the same: what stands around the contents, and the characters that the masks keep. Where
masks keep no characters and terms take nothing along, nothing is exposed, and the lines are the
same. -/
theorem log_exposes (c : Config) (selector : Selector) (before : List Operation)
    (text text' : String) (profile : ProfileId) (record : Bool)
    (hCensor : (c.after before).settings.filterMethod = .censor)
    (hSizes : ((c.after before).findings selector profile text).map Finding.size =
      ((c.after before).findings selector profile text').map Finding.size) :
    let current := c.after before
    let s := current.settings
    let findings := current.findings selector profile
    let result (text : String) := (((new c selector).after before).expurgate text profile record).1
    (∀ text, (result text).outcome.matched =
        (findings text).map (Finding.told (current.context selector)) ∧
      ∀ f ∈ findings text, f.raw = f.leading ++ f.content ++ f.trailing) ∧
    ((result text).replacementLines = (result text').replacementLines ∧
        (findings text).map (·.leading.length) = (findings text').map (·.leading.length) ↔
      (findings text).map (Finding.exposed s) = (findings text').map (Finding.exposed s)) ∧
    (s.preserveFirst = false → s.preserveLast = false →
      (∀ f ∈ findings text ++ findings text', f.term.shape = .plain) →
      (result text).replacementLines = (result text').replacementLines) := by
  intro current s findings result
  let r := (current.context selector).replacer
  have hLines (text : String) : (result text).replacementLines =
      (findings text).map fun f => (Finding.logged r f).line false := by
    rw [Expurgated.replacementLines, logged_after c selector before text profile record hCensor,
      List.map_map]
    rfl
  have hEach (f g : Finding) (hSize : f.size = g.size) :
      (Finding.logged r f).line false = (Finding.logged r g).line false ∧
          f.leading.length = g.leading.length ↔ f.exposed s = g.exposed s :=
    Finding.line_logged_eq_iff hCensor hSize
  have hIff : (result text).replacementLines = (result text').replacementLines ∧
        (findings text).map (·.leading.length) = (findings text').map (·.leading.length) ↔
      (findings text).map (Finding.exposed s) = (findings text').map (Finding.exposed s) := by
    rw [hLines, hLines]
    exact map_eq_map_iff hSizes hEach
  refine ⟨fun text => ⟨told_after c selector before text profile record hCensor,
    fun f hMem => Config.raw_of_mem_findings hMem⟩, hIff, fun hFirst hLast hPlain => ?_⟩
  have hNothing (text : String) (hShapes : ∀ f ∈ findings text, f.term.shape = .plain) :
      (findings text).map (Finding.exposed s) =
        List.replicate (findings text).length ⟨[], [], none, none⟩ := by
    refine List.map_eq_replicate_iff.mpr fun f hMem => ?_
    have hBare := Config.bare_of_mem_findings hMem (hShapes f hMem)
    exact Finding.exposed_eq_nothing hBare hFirst hLast
  have hLength : (findings text).length = (findings text').length := by
    simpa using congrArg List.length hSizes
  refine (hIff.mpr ?_).1
  rw [hNothing text fun f hMem => hPlain f (List.mem_append_left _ hMem),
    hNothing text' fun f hMem => hPlain f (List.mem_append_right _ hMem), hLength]

end Engine

/-- All of a text, found by a plain term. -/
def Finding.whole (t : Term) (text : String) : Finding :=
  ⟨t, text.toList.toArray, .plain ⟨0, text.toList.length⟩⟩

namespace Finding

variable (t : Term) (text : String)

theorem raw_whole : (whole t text).raw = text.toList := Span.text_zero_size text.toList.toArray

theorem content_whole : (whole t text).content = text.toList :=
  Span.text_zero_size text.toList.toArray

theorem size_whole : (whole t text).size = (t.text, text.toList.length, text.toList.length) := by
  rw [size, raw_whole, content_whole]
  rfl

end Finding

/-- A text that suits the only term, and is as long, is all that is found. -/
theorem Config.findings_whole {o : TermOptions} {t : Term} (hCompile : Term.compile o .default = .ok t)
    (hMethod : o.methodIn .default ≠ .regex) (hShape : o.shapeIn .default = .plain) (text : String)
    (hLength : text.toList.length = o.text.toList.length)
    (suits : o.Suits .default text.toList.toArray 0 text.toList.length) (selector : Selector) :
    Config.findings { Config.empty with terms := [o] } selector .all text = [.whole t text] := by
  let c : Config := { Config.empty with terms := [o] }
  have ht := Term.prepared_of_compile hCompile
  have hFresh : (c.freshSet (c.resolve .all)).terms = [t] :=
    Config.terms_freshSet_singleton rfl hCompile ⟨rfl, rfl⟩
  have hSize : text.toList.toArray.size = t.text.toList.length := by
    rw [ht.text, List.size_toArray, hLength]
  obtain ⟨d, m, hOnly, hSplit, hContent⟩ :=
    ht.occurrences_eq_singleton hMethod hSize (ht.occurrences_ne_nil hMethod suits)
  have hText : m.content.text text.toList.toArray ≠ [] := by
    have hSome := List.length_pos_iff.mpr ht.toList_ne_nil
    rw [hContent]
    exact Span.text_ne_nil (by rwa [ht.text]) (Nat.le_of_eq hSize.symm)
  let u : Turn := ⟨t, text.toList.toArray, .empty, selector⟩
  have hTurns : c.turns selector .all text = [u] := by
    rw [Config.turns, hFresh]
    rfl
  have hReplaced : u.replaced (c.context selector) = [m] :=
    Turn.replaced_alone rfl hOnly hSplit hText .empty selector
  have hPlain : t.shape = .plain := ht.shape.trans hShape
  rw [Term.split_plain hPlain] at hSplit
  obtain rfl := Option.some.inj hSplit
  have hParts : MatchParts.plain ⟨d.start, d.stop⟩ = .plain ⟨0, text.toList.length⟩ := by
    rw [hLength, ← ht.text]
    exact congrArg MatchParts.plain hContent
  show c.findings selector .all text = _
  rw [Config.findings, hTurns, List.flatMap_singleton, Turn.findings, hReplaced, hParts]
  rfl

namespace Engine

/-- A capital is kept in front of the mask, and the log tells it from a small letter. -/
theorem log_exposes_initial :
    let c : Config := { Config.empty with terms := [.ofText "damn"] }
    let findings := c.findings (.fixed 0) .all
    let result (text : String) := ((new c (.fixed 0)).expurgate text .all true).1
    c.settings.filterMethod = .censor ∧ (findings "Damn").length = 1 ∧
      (findings "Damn").map Finding.size = (findings "damn").map Finding.size ∧
      (result "Damn").replacementLines ≠ (result "damn").replacementLines := by
  intro c findings result
  obtain ⟨t, hCompile⟩ :=
    @Term.exists_compile (.ofText "damn") .default (by decide) (by decide) (by decide)
  have hCapital : findings "Damn" = [.whole t "Damn"] := by
    refine Config.findings_whole hCompile (by decide) (by decide) "Damn" rfl
      ⟨by decide, by decide, ?_, by decide, by decide +kernel⟩ _
    exact spells_iff_foldEq.mpr (.cons (by decide) (Unicode.FoldEq.refl "amn".toList))
  have hSmall : findings "damn" = [.whole t "damn"] :=
    Config.findings_whole hCompile (by decide) (by decide) "damn" rfl
      ⟨by decide, by decide, .self _ _ _, by decide, by decide +kernel⟩ _
  have hSizes : (findings "Damn").map Finding.size = (findings "damn").map Finding.size := by
    rw [hCapital, hSmall, List.map_singleton, List.map_singleton, Finding.size_whole,
      Finding.size_whole]
    rfl
  have hLeading : (findings "Damn").map (·.leading.length) =
      (findings "damn").map (·.leading.length) := by
    rw [hCapital, hSmall]
    rfl
  obtain ⟨-, hIff, -⟩ := log_exposes c (.fixed 0) [] "Damn" "damn" .all true rfl hSizes
  refine ⟨rfl, by rw [hCapital]; rfl, hSizes, fun hSame => ?_⟩
  have hExposed : (findings "Damn").map (Finding.exposed c.settings) =
      (findings "damn").map (Finding.exposed c.settings) := hIff.mp ⟨hSame, hLeading⟩
  rw [hCapital, hSmall, List.map_singleton, List.map_singleton] at hExposed
  have hFirst := congrArg Exposure.first (List.cons.inj hExposed).1
  simp only [Finding.exposed, Finding.content_whole] at hFirst
  exact absurd hFirst (by decide)

end Engine

end Expurgate
