import Expurgate.Config.BuiltIn
import Expurgate.Proofs.Engine.Turns

/-! What a profile means for an expurgation. The terms of a profile are picked out before they are
put in order and prepared, so a request under a declared profile is one for all terms of a smaller
configuration. -/
namespace Expurgate

namespace Config

/-- The configuration without the terms that do not belong to a profile. -/
def scopedTo (c : Config) (profile : ProfileId) : Config :=
  { c with terms := c.terms.filter (·.belongsTo profile) }

/-- A configuration cut down to a profile offers all the terms that the whole one offers to that
profile, in the same order. -/
theorem candidates_scopedTo (c : Config) (profile : ProfileId) :
    TermSet.candidates (c.scopedTo profile) .all = TermSet.candidates c profile := by
  have hAll : (c.scopedTo profile).terms.filter (·.belongsTo .all) = (c.scopedTo profile).terms :=
    List.filter_eq_self.mpr fun _ _ => rfl
  rw [TermSet.candidates, hAll]
  rfl

/-- All terms of the smaller configuration make up the set of the profile, with the same errors. -/
theorem build_scopedTo (c : Config) (profile : ProfileId) :
    TermSet.build (c.scopedTo profile) .all = { TermSet.build c profile with profile := .all } := by
  simp only [TermSet.build, TermSet.compiled, candidates_scopedTo]
  rfl

end Config

/-- Only the terms of a set matter for what it makes of a text. -/
theorem TermSet.expurgate_congr {set set' : TermSet} (hTerms : set.terms = set'.terms)
    (ctx : PassContext) (text : String) : set.expurgate ctx text = set'.expurgate ctx text := by
  rw [TermSet.expurgate, TermSet.expurgate, hTerms]

/-- A set without terms makes no pass at all, so the text is reported as unchanged. -/
theorem TermSet.expurgate_empty (profile : ProfileId) (ctx : PassContext) (text : String) :
    ((TermSet.empty profile).expurgate ctx text).1 = .unchanged text := by
  simp [TermSet.expurgate, TermSet.empty, passes, Outcome.unchanged]

namespace Engine

variable {c : Config} {selector : Selector} {before : List Operation} {text : String}
  {profile profile' : ProfileId} {record : Bool}

/-- Requests that are answered with sets of the same terms come out alike. -/
theorem outcome_congr {d : Config} (hSettings : (c.after before).settings = d.settings)
    (hAllowed : (c.after before).allowList = d.allowList)
    (hTerms : ((c.after before).freshSet ((c.after before).resolve profile)).terms =
      (d.freshSet (d.resolve profile')).terms) :
    let e := (new c selector).after before
    (e.expurgate text profile record).1.outcome =
      ((new d e.selector).expurgate text profile' record).1.outcome := by
  intro e
  have hContext : (c.after before).context e.selector = d.context e.selector := by
    rw [Config.context, Config.context, hSettings, hAllowed]
  have hNew : ((new d e.selector).expurgate text profile' record).1.outcome = _ :=
    outcome_after d e.selector [] text profile' record
  rw [outcome_after, hNew, hSettings, hContext, TermSet.expurgate_congr hTerms]
  rfl

/-- Profiles decide which terms are used, and nothing else. Under a declared profile a text comes out
as with all terms of the configuration that has the terms of this profile only, and under an
undeclared one it stays as it is. Without profiles it does not matter which one is asked for. The
smaller configuration is asked with the selector as it is by then, which is the one that the engine
began with if it is fixed. -/
theorem expurgate_scoped (c : Config) (selector : Selector) (before : List Operation)
    (text : String) (record : Bool) :
    let e := (new c selector).after before
    let current := c.after before
    let outcome (profile : ProfileId) := (e.expurgate text profile record).1.outcome
    (∀ name, current.settings.profilesEnabled = true → name ∈ current.profiles →
      outcome (.named name) =
        ((new (current.scopedTo (.named name)) e.selector).expurgate text .all record).1.outcome) ∧
    (∀ name, current.settings.profilesEnabled = true → name ∉ current.profiles →
      outcome (.named name) = .unchanged text) ∧
    (∀ profile, current.settings.profilesEnabled = false → outcome profile = outcome .all) ∧
    ∀ index, ((new c (.fixed index)).after before).selector = .fixed index := by
  intro e current outcome
  refine ⟨fun name hEnabled hDeclared => ?_, fun name hEnabled hUndeclared => ?_,
    fun profile hDisabled => ?_, ?_⟩
  · have hSet := (current.gives_freshSet (.named name)).declared name rfl hEnabled hDeclared
    have hScoped := ((current.scopedTo (.named name)).gives_freshSet .all).all rfl
    refine outcome_congr rfl rfl ?_
    rw [hSet, hScoped, Config.build_scopedTo]
  · have hSet := (current.gives_freshSet (.named name)).undeclared name rfl hEnabled hUndeclared
    have hOutcome := outcome_after c selector before text (.named name) record
    rw [show outcome (.named name) = _ from hOutcome]
    split
    · rfl
    · rw [hSet, TermSet.expurgate_empty]
  · have hResolve : current.resolve profile = current.resolve .all := by
      simp [Config.resolve, hDisabled]
    rw [show outcome profile = _ from outcome_after .., show outcome .all = _ from outcome_after ..,
      hResolve]
  · intro index
    exact selector_after_fixed rfl before

/-- The built-in profile for kids, one that is not declared, and the same profiles after they were
put out of effect. -/
theorem expurgate_scoped_builtIn :
    let c := Config.builtIn
    let d : Config := { c with settings := { c.settings with profilesEnabled := false } }
    let text := "stupid Bass, holy crap"
    let outcome (before : List Operation) (profile : ProfileId) :=
      (((new c (.fixed 0)).after before).expurgate text profile true).1.outcome
    (c.settings.profilesEnabled = true ∧ "kids" ∈ c.profiles ∧ outcome [] (.named "kids") =
      ((new (c.scopedTo (.named "kids")) (.fixed 0)).expurgate text .all true).1.outcome) ∧
    ("work" ∉ c.profiles ∧ outcome [] (.named "work") = .unchanged text) ∧
    (d.settings.profilesEnabled = false ∧
      outcome [.replaceConfig d] (.named "work") = outcome [.replaceConfig d] .all) := by
  intro c d text outcome
  have hDeclared : "kids" ∈ c.profiles := by decide
  have hUndeclared : "work" ∉ c.profiles := by decide
  obtain ⟨hKids, hWork, -⟩ := expurgate_scoped c (.fixed 0) [] text true
  obtain ⟨-, -, hOff, -⟩ := expurgate_scoped c (.fixed 0) [.replaceConfig d] text true
  exact ⟨⟨rfl, hDeclared, hKids "kids" rfl hDeclared⟩, ⟨hUndeclared, hWork "work" rfl hUndeclared⟩,
    rfl, hOff (.named "work") rfl⟩

end Engine

end Expurgate
