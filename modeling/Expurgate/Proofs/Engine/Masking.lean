import Expurgate.Proofs.Engine.Replay

/-! What censoring leaves of a text. Where masks are as long as what they hide, each term's turn
leaves every character in its place or masks it, and so do all turns together. -/
namespace Expurgate

/-- A text in which some characters of another one are masked, and the others stay in place. -/
def Masked (mask : Char) : List Char → List Char → Prop :=
  List.Forall₂ fun c d => d = c ∨ d = mask

namespace Masked

variable {mask : Char} {l l' l'' : List Char}

/-- An untouched text counts as masked, at no position. -/
theorem refl (mask : Char) (l : List Char) : Masked mask l l := by
  induction l with
  | nil => exact .nil
  | cons c rest ih => exact .cons (.inl rfl) ih

/-- A mask stays masked. -/
theorem trans (first : Masked mask l l') (second : Masked mask l' l'') : Masked mask l l'' := by
  induction first generalizing l'' with
  | nil =>
      cases second
      exact .nil
  | cons hFirst _ ih =>
      cases second with
      | cons hSecond rest =>
          refine .cons ?_ (ih rest)
          rcases hSecond with rfl | rfl
          · exact hFirst
          · exact .inr rfl

/-- Texts of equal length are masked position by position, so they can be put together. -/
theorem append {k k' : List Char} (first : Masked mask l l') (second : Masked mask k k') :
    Masked mask (l ++ k) (l' ++ k') :=
  List.rel_append first second

/-- All characters may be masked. -/
theorem replicate (mask : Char) (l : List Char) :
    Masked mask l (List.replicate l.length mask) := by
  induction l with
  | nil => exact .nil
  | cons c rest ih => exact .cons (.inr rfl) ih

/-- Position by position a masked text holds the old character or the mask. -/
theorem get (masked : Masked mask l l') (i : Nat) : l'[i]? = l[i]? ∨ l'[i]? = some mask := by
  induction masked generalizing i with
  | nil => exact .inl rfl
  | @cons c d rest rest' hChar _ ih =>
      cases i with
      | zero =>
          rcases hChar with rfl | rfl
          · exact .inl rfl
          · exact .inr rfl
      | succ i => simpa using ih i

end Masked

/-- A mask of the word's own length keeps the preserved characters in their places. -/
theorem masked_censorWord (word : List Char) (mask : Char) (preserveFirst preserveLast : Bool) :
    Masked mask word (censorWord word mask 0 preserveFirst preserveLast) := by
  have hFirst (c : Char) (rest : List Char) :
      Masked mask (c :: rest) (c :: List.replicate rest.length mask) :=
    .cons (.inl rfl) (Masked.replicate mask rest)
  have hLast (start : List Char) (d : Char) :
      Masked mask (start ++ [d]) (List.replicate start.length mask ++ [d]) :=
    (Masked.replicate mask start).append (.refl mask [d])
  cases preserveFirst <;> cases preserveLast
  · exact .replicate mask word
  · rcases List.eq_nil_or_concat word with rfl | ⟨start, d, rfl⟩
    · exact .nil
    · simpa [censorWord] using hLast start d
  · cases word with
    | nil => exact .nil
    | cons c rest => simpa [censorWord] using hFirst c rest
  · cases word with
    | nil => exact .nil
    | cons c rest =>
        rcases List.eq_nil_or_concat rest with rfl | ⟨start, d, rfl⟩
        · exact .refl mask [c]
        · have hEnd : (c :: (start ++ [d])).getLast? = some d :=
            List.getLast?_append_of_ne_nil (c :: start) (by simp)
          simpa [censorWord, hEnd] using (Masked.refl mask [c]).append (hLast start d)

section Censor

/-- Censoring with masks of the words' own lengths masks what it replaces. -/
theorem Describes.masked {r : Replacer} {t : Term} {offset : Nat} {raw : List Char} {m : TermMatch}
    (describes : Describes r t offset raw m) (hMethod : r.settings.filterMethod = .censor)
    (hLength : r.settings.censorFixedLength = 0) :
    Masked r.settings.censorCharacter raw m.replacement.toList := by
  obtain ⟨leading, trailing, hRaw, hCensor, -⟩ := describes.parts
  have hWord : Masked r.settings.censorCharacter m.found.toList (r.censor m.found.toList) := by
    rw [Replacer.censor, hLength]
    exact masked_censorWord _ _ _ _
  rw [hRaw, hCensor hMethod]
  exact ((Masked.refl _ leading).append hWord).append (.refl _ trailing)

variable {s : Settings} (hMethod : s.filterMethod = .censor) (hLength : s.censorFixedLength = 0)
include hMethod hLength

/-- One turn masks its text, because each edit replaces a match by one of the same length and copies
what is between. -/
theorem Edits.masked {r : Replacer} {t : Term} {offset : Nat} {text after : List Char}
    {ms : List TermMatch} (edits : Edits t r offset text ms after) (hSettings : r.settings = s) :
    Masked s.censorCharacter text after := by
  induction edits with
  | rest => exact .refl _ _
  | @edit r _ gap _ _ _ m _ hMatch _ ih =>
      subst hSettings
      exact ((Masked.refl _ gap).append (hMatch.masked hMethod hLength)).append (ih rfl)

/-- All turns together mask the text. A position that one turn masked is masked for all that follow,
so the order of the terms does not matter here. -/
theorem Replays.masked {r : Replacer} {terms : List Term} {text final : List Char}
    {groups : List (List TermMatch)} (replays : Replays r terms text groups final)
    (hSettings : r.settings = s) : Masked s.censorCharacter text final := by
  induction replays with
  | done => exact .refl _ _
  | @turn r t _ _ _ _ group _ edits _ ih =>
      have hSame : (r.afterAll t group).settings = s :=
        (r.settings_afterAll t group).trans hSettings
      exact (edits.masked hMethod hLength hSettings).trans (ih hSame)

end Censor

namespace Engine

/-- An expurgation leaves a text as it is, or gives prepared terms their turns on it. -/
theorem Coherent.expurgate_turns {e : Engine} (hCoherent : e.Coherent) (text : String)
    (profile : ProfileId) (record : Bool) :
    let outcome := (e.expurgate text profile record).1.outcome
    outcome = .unchanged text ∨
    ∃ terms, (∀ t ∈ terms, ∃ o, Term.Prepared o e.config.settings t) ∧
      outcome.filtered.toList =
        (passes e.context terms text.toList.toArray .empty).text.toList := by
  intro outcome
  have hOutcome : outcome = _ := outcome_expurgate e text profile record
  by_cases hIdle : e.config.settings.filterMethod = .off ∨ text = ""
  · exact .inl (hOutcome.trans (if_pos hIdle))
  · rw [if_neg hIdle, hCoherent.termSet_set] at hOutcome
    refine .inr ⟨(e.config.freshSet (e.config.resolve profile)).terms, ?_, ?_⟩
    · intro t hMem
      obtain ⟨o, -, ht⟩ := e.config.prepared_of_mem_freshSet _ t hMem
      exact ⟨o, ht⟩
    · rw [hOutcome, TermSet.expurgate, String.toList_ofList]

/-- Censoring with masks of the words' own lengths gives a text of as many characters, and at each
position the old character or the censor character. -/
theorem expurgate_masks (c : Config) (selector : Selector) (before : List Operation)
    (text : String) (profile : ProfileId) (record : Bool) :
    let s := (c.after before).settings
    let outcome := (((new c selector).after before).expurgate text profile record).1.outcome
    s.filterMethod = .censor → s.censorFixedLength = 0 →
    outcome.filtered.length = text.length ∧
      ∀ i : Nat, outcome.filtered.toList[i]? = text.toList[i]? ∨
        outcome.filtered.toList[i]? = some s.censorCharacter := by
  intro s outcome hMethod hLength
  have hCoherent := (Coherent.new c selector).after before
  have hConfig := config_after (new c selector) before
  have masked : Masked s.censorCharacter text.toList outcome.filtered.toList := by
    rcases hCoherent.expurgate_turns text profile record with hSame | ⟨terms, hTerms, hText⟩
    · rw [show outcome = _ from hSame]
      exact .refl _ _
    · rw [hText]
      obtain ⟨groups, -, hReplays⟩ := @replays_passes
        ((new c selector).after before).context _ _ hTerms text.toList.toArray .empty
      have hSettings : ((new c selector).after before).context.replacer.settings = s :=
        congrArg Config.settings hConfig
      exact hReplays.masked hMethod hLength hSettings
  exact ⟨(List.Forall₂.length_eq masked).symm, masked.get⟩

/-- Stars are put over the word "бля" only after a configuration for stars came into effect. -/
theorem expurgate_masks_replaced :
    let stars : Config := { Config.empty with terms := [.ofText "бля", .ofText "ну-ну"] }
    let e := (new .empty (.fixed 0)).after [.replaceConfig stars]
    let outcome := (e.expurgate "ну-ну бля" .all true).1.outcome
    stars.settings.filterMethod = .censor ∧ stars.settings.censorFixedLength = 0 ∧
      outcome.filtered.length = 9 ∧
      ∀ i : Nat, outcome.filtered.toList[i]? = ("ну-ну бля".toList)[i]? ∨
        outcome.filtered.toList[i]? = some '*' := by
  intro stars e outcome
  obtain ⟨hLength, hEach⟩ := expurgate_masks .empty (.fixed 0) [.replaceConfig stars] "ну-ну бля"
    .all true rfl rfl
  exact ⟨rfl, rfl, hLength, hEach⟩

end Engine

end Expurgate
