import Expurgate.Engine.Room
import Expurgate.Proofs.Engine.Replay

/-! Who chooses among the substitutions of a term. Engines at work on one configuration answer alike
where the same one chooses, and where nothing is left to choose, whatever they were asked before. -/
namespace Expurgate

/-- Nothing is left to choose: if substitutions are put in, there is one for each term at most. -/
def Config.Settled (c : Config) : Prop :=
  c.settings.filterMethod = .substitute → ∀ o ∈ c.terms, o.substitutions.length ≤ 1

/-- Then the turns of any profile have nothing to choose. -/
theorem Config.Settled.choices_le {c : Config} (hSettled : c.Settled) {profile : ProfileId}
    {t : Term} (hMem : t ∈ (c.freshSet profile).terms) {r : Replacer}
    (hSettings : r.settings = c.settings) : r.choices t ≤ 1 := by
  by_cases hMethod : c.settings.filterMethod = .substitute
  · obtain ⟨o, ho, hCompile⟩ := c.compile_of_mem_freshSet profile t hMem
    refine Replacer.choices_of_single ?_ r
    rw [Term.substitutions_of_compile hCompile]
    exact hSettled hMethod o ho
  · exact Replacer.choices_of_method (hSettings ▸ hMethod) t

/-- Contexts that lead to the same decisions on the matches of some terms: they are the same, or they
differ in who chooses and there is nothing to choose. -/
def PassContext.Agrees (terms : List Term) (ctx ctx' : PassContext) : Prop :=
  ctx' = ctx ∨ ctx'.allowList = ctx.allowList ∧ ctx'.replacer.settings = ctx.replacer.settings ∧
    ∀ t ∈ terms, ctx.replacer.choices t ≤ 1

namespace PassContext.Agrees

variable {terms : List Term} {ctx ctx' : PassContext}

/-- How long the masks are does not matter for who chooses. -/
theorem ownMasks (agrees : PassContext.Agrees terms ctx ctx') :
    PassContext.Agrees terms ctx.ownMasks ctx'.ownMasks := by
  rcases agrees with hSame | ⟨hAllowed, hSettings, hFew⟩
  · exact .inl (congrArg PassContext.ownMasks hSame)
  · exact .inr ⟨hAllowed, congrArg (fun s : Settings => { s with censorFixedLength := 0 }) hSettings,
      hFew⟩

/-- The agreement of the contexts carries over to whole texts. Each pass leaves the two contexts in
agreement about the terms that are still to come. -/
theorem expurgate {set : TermSet} (agrees : PassContext.Agrees set.terms ctx ctx') (text : String) :
    set.expurgate ctx' text = set.expurgate ctx text := by
  rcases agrees with rfl | ⟨hAllowed, hSettings, hFew⟩
  · rfl
  · rw [TermSet.expurgate, TermSet.expurgate,
      passes_congr ctx ctx' hAllowed.symm hSettings.symm hFew]

end PassContext.Agrees

namespace Engine

/-- Two engines at work on one configuration whose choices are the same, if there are any. What they
have built and counted so far may differ. -/
structure Alike (e e' : Engine) : Prop where
  left : e.Coherent
  right : e'.Coherent
  config : e'.config = e.config
  choice : e'.selector = e.selector ∨ e.config.Settled

namespace Alike

variable {e e' : Engine}

/-- Two new engines are alike when they start from the same choices, or when the configuration has
no term with two words to choose between. -/
theorem new (c : Config) {selector selector' : Selector}
    (hChoice : selector' = selector ∨ c.Settled) :
    (Engine.new c selector).Alike (Engine.new c selector') :=
  ⟨.new c selector, .new c selector', rfl, hChoice⟩

section Profile

variable (alike : e.Alike e') (profile : ProfileId)

include alike

/-- The sets of both are those of the configuration. -/
theorem set_eq : (e'.termSet profile).1.set = (e.termSet profile).1.set := by
  rw [alike.left.termSet_set, alike.right.termSet_set, alike.config]

/-- The set that an engine would use leaves its context nothing to choose, unless the other engine's
context makes the same choices. -/
theorem agrees :
    PassContext.Agrees (e.termSet profile).1.set.terms e.context e'.context := by
  have hAllowed : e'.allowList = e.allowList := by
    rw [alike.left.allowList, alike.right.allowList, alike.config]
  rcases alike.choice with hSelector | hSettled
  · exact .inl (by rw [context, context, hAllowed, alike.config, hSelector])
  · refine .inr ⟨hAllowed, congrArg Config.settings alike.config, fun t hMem => ?_⟩
    rw [alike.left.termSet_set] at hMem
    exact hSettled.choices_le hMem rfl

/-- It is the first engine's set on both sides. That the second engine uses an equal set is a fact
of its own. -/
theorem expurgate_set (text : String) :
    (e'.termSet profile).1.set.expurgate e'.context text =
      (e.termSet profile).1.set.expurgate e.context text := by
  rw [alike.set_eq profile]
  exact (alike.agrees profile).expurgate text

theorem expurgate (text : String) (record : Bool) :
    (e'.expurgate text profile record).1.outcome = (e.expurgate text profile record).1.outcome ∧
      (e'.expurgate text profile record).1.log = (e.expurgate text profile record).1.log := by
  have hSet := alike.expurgate_set profile text
  constructor
  · rw [outcome_expurgate, outcome_expurgate, hSet, alike.config]
  · rw [log_expurgate, log_expurgate, hSet, alike.config]

/-- After the same text they are alike still. The same choices were made, if there were any. -/
theorem after (text : String) (record : Bool) :
    (e.expurgate text profile record).2.Alike (e'.expurgate text profile record).2 where
  left := alike.left.perform (.expurgate text profile record)
  right := alike.right.perform (.expurgate text profile record)
  config := by
    have hLeft : (e.expurgate text profile record).2.config = e.config :=
      config_perform e (.expurgate text profile record)
    have hRight : (e'.expurgate text profile record).2.config = e'.config :=
      config_perform e' (.expurgate text profile record)
    rw [hLeft, hRight, alike.config]
  choice := by
    have hConfig : (e.expurgate text profile record).2.config = e.config :=
      config_perform e (.expurgate text profile record)
    rw [hConfig]
    refine alike.choice.imp_left fun hSelector => ?_
    rw [selector_expurgate, selector_expurgate, alike.expurgate_set profile text, alike.config,
      hSelector]

/-- They tell the same of a text up to the first match that is replaced. -/
theorem untilMask? (text : String) : e'.untilMask? text profile = e.untilMask? text profile := by
  have hOwn : (e.termSet profile).1.set.expurgate e'.context.ownMasks text =
      (e.termSet profile).1.set.expurgate e.context.ownMasks text :=
    (alike.agrees profile).ownMasks.expurgate text
  simp only [Engine.untilMask?, alike.set_eq profile, hOwn]

/-- The two engines run out of memory at the same line, if at any, since the lines before it leave
them alike. -/
theorem untilMaskedLine? (lines : List (Option String)) :
    e'.untilMaskedLine? profile lines = e.untilMaskedLine? profile lines := by
  induction lines with
  | nil => rfl
  | cons first rest ih =>
      cases first with
      | none => rfl
      | some text => simp only [Engine.untilMaskedLine?, alike.untilMask? profile text, ih]

end Profile

/-- Two engines that are alike write the same for the same lines. -/
theorem stream (alike : e.Alike e') (profile : ProfileId) (lines : List (Option String)) :
    (Engine.stream profile lines e').1 = (Engine.stream profile lines e).1 := by
  induction lines generalizing e e' with
  | nil => rfl
  | cons first rest ih =>
      cases first with
      | none => rfl
      | some text =>
          obtain ⟨hOutcome, hLog⟩ := alike.expurgate profile text true
          simp only [Engine.stream, hOutcome, hLog, ih (alike.after profile text true)]

end Alike

end Engine

end Expurgate
