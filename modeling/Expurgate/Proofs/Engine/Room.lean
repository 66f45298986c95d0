import Expurgate.Proofs.Engine.Choice
import Expurgate.Proofs.Engine.Unmatched

/-! When a mask is asked for that there is no room for. Under a mask every match that is replaced asks
for one, so this is seen at the first text of which a match is told. -/
namespace Expurgate

/-- Of some decisions one tells of a match, or there is no match. -/
theorem any_match?_iff (decided : List Resolution) :
    decided.any (·.match?.isSome) = true ↔ decided.filterMap (·.match?) ≠ [] := by
  rw [Ne, List.filterMap_eq_nil_iff, List.any_eq_true]
  push Not
  simp only [Option.isSome_iff_ne_none]

namespace Engine

variable {e : Engine} {profile : ProfileId} {log : List LogRecord}

/-- With masks of any length, a mask is asked for exactly where a match is told of. The masks that
are asked for are those of the masked text, however long it gets. -/
theorem isSome_untilMask?_iff (hMethod : e.config.settings.filterMethod = .censor) (text : String)
    (profile : ProfileId) (record : Bool) : (e.untilMask? text profile).isSome = true ↔
      (e.expurgate text profile record).1.outcome.matched ≠ [] := by
  have hBusy : (e.config.settings.filterMethod = .off ∨ text = "") ↔ text = "" := by
    simp [hMethod]
  rw [outcome_expurgate, if_congr hBusy rfl rfl]
  unfold untilMask?
  by_cases hText : text = ""
  · rw [if_pos hText, if_pos hText]
    exact iff_of_false nofun (not_not_intro rfl)
  · rw [if_neg hText, if_neg hText]
    let terms := (e.termSet profile).1.set.terms
    have hOwn : (passes e.context.ownMasks terms text.toList.toArray .empty).matched = [] ↔
        (passes e.context terms text.toList.toArray .empty).matched = [] :=
      ⟨unmatched_passes_congr e.context.ownMasks e.context rfl,
        unmatched_passes_congr e.context e.context.ownMasks rfl⟩
    refine Iff.trans ?_ ((any_match?_iff _).trans (not_congr hOwn))
    dsimp only [TermSet.expurgate]
    split
    · rename_i hSome
      exact iff_of_true rfl hSome
    · rename_i hNone
      exact iff_of_false nofun hNone

/-- So a text is free of masks exactly if it is free of matches. -/
theorem isNone_untilMask?_eq (hMethod : e.config.settings.filterMethod = .censor) (text : String)
    (profile : ProfileId) (record : Bool) : (e.untilMask? text profile).isNone =
      (e.expurgate text profile record).1.outcome.matched.isEmpty := by
  rw [Bool.eq_iff_iff, List.isEmpty_iff, Option.isNone_iff_eq_none, ← Option.not_isSome_iff_eq_none,
    isSome_untilMask?_iff hMethod text profile record, Ne, not_not]

/-- The lines in front of the first one with a match are those that no mask is asked for in. -/
theorem lines_of_untilMaskedLine? {lines earlier : List (Option String)}
    (hFound : e.untilMaskedLine? profile lines = some (earlier, log)) :
    earlier = ((readable lines).takeWhile fun l => (e.untilMask? l profile).isNone).map some := by
  induction lines generalizing earlier log with
  | nil => cases hFound
  | cons first rest ih =>
      cases first with
      | none => cases hFound
      | some text =>
          cases hMask : e.untilMask? text profile with
          | some found =>
              simp only [untilMaskedLine?, hMask] at hFound
              obtain ⟨rfl, -⟩ := Prod.mk.inj (Option.some.inj hFound)
              simp [readable, hMask]
          | none =>
              simp only [untilMaskedLine?, hMask] at hFound
              obtain ⟨⟨others, log'⟩, hRest, hSame⟩ := Option.map_eq_some_iff.mp hFound
              obtain ⟨rfl, -⟩ := Prod.mk.inj hSame
              rw [ih hRest]
              simp [readable, hMask]

/-- A mask is asked for in one of the lines, if all of them are text. -/
theorem isSome_untilMaskedLine?_iff (e : Engine) (profile : ProfileId)
    {lines : List (Option String)} (hLines : none ∉ lines) :
    (e.untilMaskedLine? profile lines).isSome = true ↔
      ∃ text, some text ∈ lines ∧ (e.untilMask? text profile).isSome = true := by
  induction lines with
  | nil => simp [untilMaskedLine?]
  | cons first rest ih =>
      cases first with
      | none => simp at hLines
      | some text =>
          have hRest := ih fun hMem => hLines (.tail _ hMem)
          cases hMask : e.untilMask? text profile with
          | some found => simp [untilMaskedLine?, hMask]
          | none => simp [untilMaskedLine?, hMask, hRest]

/-- Lines in which nothing is replaced are written as they are. -/
theorem output_stream_of_unmatched (c : Config) (selector : Selector) (texts : List String)
    (hNone : ∀ text ∈ texts,
      ((new c selector).expurgate text profile true).1.outcome.matched = []) :
    (Engine.stream profile (texts.map some) (new c selector)).1.output.toList =
      texts.flatMap fun text => (line text).toList := by
  obtain ⟨hOutput, -⟩ := stream_outcomes profile (texts.map some) (new c selector)
  obtain ⟨hKept, -⟩ := outcomes_of_unmatched c selector [] profile texts hNone
  rw [hOutput, readable_map_some]
  calc (outcomes profile (new c selector) texts).flatMap (fun o => (line o.filtered).toList)
      = ((outcomes profile (new c selector) texts).map (·.filtered)).flatMap
          fun text => (line text).toList :=
        (List.flatMap_map Outcome.filtered (fun text => (line text).toList) _).symm
    _ = texts.flatMap fun text => (line text).toList := congrArg (List.flatMap _) hKept

end Engine

end Expurgate
