import Expurgate.Command.Run
import Expurgate.Proofs.Engine.Lines
import Expurgate.Proofs.Lines

/-! Expurgating a text line by line. Where lines are kept, what is written is the same as for the
whole text, except that a last line of which nothing is left is still ended. -/
namespace Expurgate

def lastLine (text : String) : String := String.ofList (text.toList.rtakeWhile (· ≠ '\n'))

/-- A closed text ends every line, the last one too unless it is empty and not the only one. -/
theorem closeLine_joined {s : String} {lines : List (List Char)} {last : List Char}
    (hText : s.toList = joined '\n' lines last) (hLast : '\n' ∉ last) :
    (closeLine s).toList =
      (lines ++ if lines ≠ [] ∧ last = [] then [] else [last]).flatMap (· ++ ['\n']) := by
  rw [closeLine, hText]
  by_cases hEnded : lines ≠ [] ∧ last = []
  · obtain ⟨hSome, rfl⟩ := hEnded
    obtain ⟨front, line, rfl⟩ := (List.eq_nil_or_concat lines).resolve_left hSome
    rw [if_pos (by simp [joined]), if_pos ⟨hSome, rfl⟩, hText]
    simp [joined]
  · have hOpen : (joined '\n' lines last).getLast? ≠ some '\n' := by
      intro hFeed
      rcases not_and_or.mp hEnded with hNone | hSome
      · obtain rfl := not_not.mp hNone
        exact hLast (List.mem_of_mem_getLast? hFeed)
      · rw [joined, List.getLast?_append_of_ne_nil _ hSome] at hFeed
        exact hLast (List.mem_of_mem_getLast? hFeed)
    rw [if_neg hOpen, if_neg hEnded, line, String.toList_append, hText]
    simp [joined]

/-- Lines that are closed one by one come to the closed text, unless the last of several is emptied:
alone it is ended, but in the text it has already come to an end. -/
theorem closeLine_cases {f : List Char → List Char} {each whole : String}
    {lines : List (List Char)} {last : List Char}
    (hEach : each.toList = ((lines ++ lastOf last).map f).flatMap (· ++ ['\n']))
    (hWhole : whole.toList = joined '\n' (lines.map f) (f last)) (hFeed : '\n' ∉ f last)
    (hEmpty : f [] = []) (hSome : lines ≠ [] ∨ last ≠ []) :
    let emptied := lines ≠ [] ∧ last ≠ [] ∧ f last = []
    (¬emptied → each = closeLine whole) ∧ (emptied → each = line (closeLine whole)) := by
  have hClosed := closeLine_joined hWhole hFeed
  simp only [ne_eq, List.map_eq_nil_iff] at hClosed
  refine ⟨fun hNot => String.toList_inj.mp ?_, fun hEmptied => String.toList_inj.mp ?_⟩
  · have hEnds : (lastOf last).map f = if ¬lines = [] ∧ f last = [] then [] else [f last] := by
      by_cases hTail : last = []
      · subst hTail
        rw [if_pos ⟨hSome.resolve_right (not_not_intro rfl), hEmpty⟩]
        rfl
      · rw [lastOf, if_neg hTail, if_neg fun hBoth => hNot ⟨hBoth.1, hTail, hBoth.2⟩]
        rfl
    rw [hEach, hClosed, List.map_append, hEnds]
  · obtain ⟨hSeveral, hTail, hNone⟩ := hEmptied
    rw [hEach, line, String.toList_append, hClosed, if_pos ⟨hSeveral, hNone⟩, lastOf,
      if_neg hTail, List.map_append, List.map_singleton, hNone, List.flatMap_append,
      List.append_nil]
    rfl

/-- A text whose lines are kept apart is cleaned line by line, and its records are those of its
lines one after the other. -/
theorem Config.KeepsLines.cleaned_joined {c : Config} {profile : ProfileId}
    (keeps : c.KeepsLines profile) (selector : Selector) (lines : List (List Char))
    (last : List Char) :
    let clean := c.cleaned selector profile
    let cleanText := c.cleanedText selector profile
    cleanText (joined '\n' lines last) = joined '\n' (lines.map cleanText) (cleanText last) ∧
      ((clean (joined '\n' lines last)).matched.map TermMatch.change).Perm
        (((lines ++ lastOf last).flatMap fun l => (clean l).matched).map TermMatch.change) := by
  intro clean cleanText
  induction lines with
  | nil =>
      refine ⟨rfl, .of_eq (congrArg _ ?_)⟩
      by_cases hNone : last = []
      · subst hNone
        simp [clean, joined, lastOf, keeps.cleaned_nil]
      · simp [joined, lastOf, hNone]
  | cons line lines ih =>
      obtain ⟨hText, hMatched⟩ := keeps.cleaned_append selector line (joined '\n' lines last)
      rw [joined_cons, List.map_cons, joined_cons]
      refine ⟨hText.trans (by rw [← ih.1]), hMatched.trans ?_⟩
      rw [List.cons_append, List.flatMap_cons, List.map_append]
      exact ih.2.append_left _

namespace Engine

/-- Where lines are kept, an expurgation gives the cleaned text and its matches. -/
theorem cleaned_after (c : Config) (selector : Selector) (before : List Operation)
    {profile : ProfileId} (keeps : (c.after before).KeepsLines profile) (text : String)
    (record : Bool) :
    let outcome := (((new c selector).after before).expurgate text profile record).1.outcome
    let current := c.after before
    outcome.filtered.toList = current.cleanedText selector profile text.toList ∧
      outcome.matched = (current.cleaned selector profile text.toList).matched := by
  intro outcome current
  let chooser := ((new c selector).after before).selector
  have hOutcome : outcome = _ := outcome_after c selector before text profile record
  rw [Config.cleanedText, keeps.cleaned_congr selector chooser]
  have hOn : (c.after before).settings.filterMethod ≠ .off := by
    rcases keeps.settings.method with hMethod | hMethod <;> simp [hMethod]
  by_cases hText : text = ""
  · subst hText
    rw [hOutcome, if_pos (.inr rfl)]
    have hNone : current.cleaned chooser profile "".toList = ⟨#[], []⟩ :=
      keeps.cleaned_nil chooser
    rw [hNone]
    exact ⟨rfl, rfl⟩
  · rw [hOutcome, if_neg (not_or.mpr ⟨hOn, hText⟩), TermSet.expurgate, String.toList_ofList]
    exact ⟨rfl, rfl⟩

/-- The lines of a stream are cleaned one after another. -/
theorem stream_after (c : Config) (selector : Selector) (before : List Operation)
    {profile : ProfileId} (keeps : (c.after before).KeepsLines profile)
    (lines : List (List Char)) :
    let current := c.after before
    let streamed := (Engine.stream profile (lines.map fun l => some (String.ofList l))
      ((new c selector).after before)).1
    streamed.output.toList =
        (lines.map (current.cleanedText selector profile)).flatMap (· ++ ['\n']) ∧
      streamed.matched = lines.flatMap (fun l => (current.cleaned selector profile l).matched) ∧
      streamed.fault = none := by
  induction lines generalizing before with
  | nil => exact ⟨rfl, rfl, rfl⟩
  | cons l rest ih =>
      let done : Operation := .expurgate (String.ofList l) profile true
      have hNext : (((new c selector).after before).expurgate (String.ofList l) profile true).2 =
          (new c selector).after (before ++ [done]) := (after_concat _ before done).symm
      have hConfig : c.after (before ++ [done]) = c.after before := List.foldl_concat ..
      obtain ⟨hOutput, hMatched, hFault⟩ := ih (before ++ [done]) (hConfig ▸ keeps)
      obtain ⟨hLine, hFound⟩ := cleaned_after c selector before keeps (String.ofList l) true
      rw [hConfig] at hOutput hMatched
      rw [String.toList_ofList] at hLine hFound
      simp only [List.map_cons, Engine.stream, hNext, List.flatMap_cons, String.toList_append, line]
      exact ⟨by rw [hLine, hOutput]; rfl, by rw [hFound, hMatched], hFault⟩

/-- What is written line by line, and what becomes of the whole text. -/
theorem stream_joined (c : Config) (selector selector' : Selector) (before : List Operation)
    {profile : ProfileId} (keeps : (c.after before).KeepsLines profile) {text : String}
    {lines : List (List Char)} {last : List Char} (hText : text.toList = joined '\n' lines last)
    (hLines : ∀ line ∈ lines, '\n' ∉ line) (hLast : '\n' ∉ last) (hReturn : '\r' ∉ text.toList) :
    let current := c.after before
    let cleanText := current.cleanedText selector profile
    let streamed := (Engine.stream profile (streamLines text.toUTF8.data.toList)
      ((new c selector).after before)).1
    let outcome := ((new current selector').expurgate text profile true).1.outcome
    streamed.fault = none ∧
      streamed.output.toList = ((lines ++ lastOf last).map cleanText).flatMap (· ++ ['\n']) ∧
      outcome.filtered.toList = joined '\n' (lines.map cleanText) (cleanText last) ∧
      (outcome.matched.map TermMatch.change).Perm (streamed.matched.map TermMatch.change) := by
  intro current cleanText streamed outcome
  have hStream : streamLines text.toUTF8.data.toList =
      (lines ++ lastOf last).map fun l => some (String.ofList l) := by
    rw [← String.ofList_toList (s := text), toUTF8_ofList, hText]
    refine streamLines_joined hLines hLast fun line hMem hIn => hReturn ?_
    rw [hText]
    exact List.mem_append_left _ (List.mem_flatMap_of_mem hMem (List.mem_append_left _ hIn))
  obtain ⟨hOutput, hMatched, hFault⟩ := stream_after c selector before keeps (lines ++ lastOf last)
  obtain ⟨hFiltered, hFound⟩ : outcome.filtered.toList =
        current.cleanedText selector' profile text.toList ∧
      outcome.matched = (current.cleaned selector' profile text.toList).matched :=
    cleaned_after current selector' [] keeps text true
  obtain ⟨hCleaned, hPerm⟩ := keeps.cleaned_joined selector lines last
  rw [keeps.cleanedText_congr selector' selector, hText] at hFiltered
  rw [keeps.cleaned_congr selector' selector, hText] at hFound
  simp only [streamed, hStream]
  exact ⟨hFault, hOutput, hFiltered.trans hCleaned, by rw [hFound, hMatched]; exact hPerm⟩

/-- Where lines are kept, a text without carriage returns is expurgated line by line as in one piece:
each term is matched as often, and the same is written. Only if the text has several lines and nothing
is left of a last line that does not end, there is one line feed more. -/
theorem stream_agrees (t : Theme) (colours : Bool) (c : Config) (selector selector' : Selector)
    (before : List Operation) (text : String) (profile : ProfileId) :
    let current := c.after before
    let streamed := (Engine.stream profile (streamLines text.toUTF8.data.toList)
      ((new c selector).after before)).1
    let outcome (s : String) := ((new current selector').expurgate s profile true).1.outcome
    let whole := primaryOutput t colours false (outcome text)
    let emptied := '\n' ∈ text.toList ∧ lastLine text ≠ "" ∧ (outcome (lastLine text)).filtered = ""
    current.KeepsLines profile → text ≠ "" → '\r' ∉ text.toList →
    streamed.fault = none ∧ (¬emptied → streamed.output = whole) ∧
      (emptied → streamed.output = line whole) ∧
      ∀ key, streamed.matched.countP (·.key = key) = (outcome text).matched.countP (·.key = key) := by
  intro current streamed outcome whole emptied keeps hText hReturn
  obtain ⟨lines, last, hJoined, hLines, hLast⟩ := exists_joined '\n' text.toList
  obtain ⟨hFault, hStreamed, hFiltered, hMatched⟩ :=
    stream_joined c selector selector' before keeps hJoined hLines hLast hReturn
  have hEmptied : emptied ↔
      lines ≠ [] ∧ last ≠ [] ∧ current.cleanedText selector profile last = [] := by
    have hTail : (lastLine text).toList = last := by
      rw [lastLine, String.toList_ofList, hJoined, rtakeWhile_joined hLast]
    have hLeft : (outcome (lastLine text)).filtered.toList =
        current.cleanedText selector profile last := by
      rw [← keeps.cleanedText_congr selector' selector, ← hTail]
      exact (cleaned_after current selector' [] keeps (lastLine text) true).1
    have hSeveral : '\n' ∈ text.toList ↔ lines ≠ [] := by
      rw [hJoined]
      exact mem_joined_iff hLast
    rw [← hSeveral, ← hLeft, ← hTail, String.toList_eq_nil_iff, ne_eq, String.toList_eq_nil_iff]
  have hSome : lines ≠ [] ∨ last ≠ [] := by
    by_contra hNone
    obtain ⟨rfl, rfl⟩ : lines = [] ∧ last = [] := by simpa using hNone
    exact hText (String.toList_eq_nil_iff.mp hJoined)
  obtain ⟨hSame, hMore⟩ := closeLine_cases hStreamed hFiltered
    (keeps.feed_not_mem_cleanedText selector hLast) (keeps.cleanedText_nil selector) hSome
  refine ⟨hFault, fun hNot => hSame (mt hEmptied.mpr hNot), fun hIs => hMore (hEmptied.mp hIs),
    fun key => ?_⟩
  have hCount (l : List TermMatch) :
      l.countP (·.key = key) = (l.map TermMatch.change).countP (·.1 = key) := by
    rw [List.countP_map]
    rfl
  rw [hCount, hCount, hMatched.countP_eq]

/-- Two words, one with a substitution of its own, on two lines that are both ended. -/
theorem stream_agrees_substituted :
    let c : Config := { Config.empty with
      settings := { Settings.default with filterMethod := .substitute }
      terms := [(TermOptions.ofText "damn").withSubstitution "darn", .ofText "hell"] }
    let text := "Damn!\nGo to hell, damn you\n"
    let streamed := (Engine.stream .all (streamLines text.toUTF8.data.toList) (new c (.fixed 0))).1
    let outcome := ((new c (.fixed 1)).expurgate text .all true).1.outcome
    c.KeepsLines .all ∧ text ≠ "" ∧ '\r' ∉ text.toList ∧ lastLine text = "" ∧
      streamed.output = primaryOutput .default false false outcome ∧
      ∀ key, streamed.matched.countP (·.key = key) = outcome.matched.countP (·.key = key) := by
  intro c text streamed outcome
  have keeps : c.KeepsLines .all := by
    refine Config.keepsLines_of_options ⟨.inr rfl, by decide, by decide⟩ rfl ?_ .all
    refine List.forall_mem_cons.mpr ⟨?_, List.forall_mem_singleton.mpr ?_⟩
    · exact ⟨by decide, by decide, by decide, by decide, by decide⟩
    · exact ⟨by decide, by decide, by decide, by decide, by decide⟩
  have hText : text ≠ "" := by decide
  have hReturn : '\r' ∉ text.toList := by decide
  have hEnded : lastLine text = "" := by decide
  obtain ⟨-, hSame, -, hCounts⟩ := stream_agrees .default false c (.fixed 0) (.fixed 1) [] text .all keeps
    hText hReturn
  exact ⟨keeps, hText, hReturn, hEnded, hSame fun hEmptied => hEmptied.2.1 hEnded, hCounts⟩

end Engine

theorem matchCase_nil (source : List Char) : matchCase source [] = [] := by
  unfold matchCase
  split
  · rfl
  · split <;> rfl

/-- Where the text of last resort is empty, a term without a substitution gives way to nothing. -/
theorem Replacer.replacement_eq_nil {r : Replacer} {t : Term}
    (hMethod : r.settings.filterMethod = .substitute) (hMark : r.settings.substitutionMark = false)
    (hNone : t.substitutions = []) (hDefault : r.settings.defaultSubstitution = "") (s : Span)
    (h : Array Char) : r.replacement t (.plain s) h = [] := by
  have hChosen : r.candidate t = "" := by
    rw [candidate, hNone]
    exact hDefault
  simp [replacement, hMethod, reattach, substitute, hChosen, hMark, matchCase_nil]

/-- A configuration that puts nothing in the place of its term. -/
def Config.emptying : Config :=
  { Config.empty with
    settings := { Settings.default with filterMethod := .substitute, defaultSubstitution := "" }
    terms := [.ofText "damn"] }

/-- The conditions on lines hold of a configuration that replaces a whole line by nothing. -/
theorem Config.keepsLines_emptying : Config.emptying.KeepsLines .all := by
  refine keepsLines_of_options ⟨.inr rfl, by decide, by decide⟩ rfl ?_ .all
  refine List.forall_mem_singleton.mpr ?_
  exact ⟨by decide, by decide, by decide, by decide, by decide⟩

/-- One line comes out empty here and another stays. An emptied last line that is not finished is the
one case in which a stream has a line feed more. -/
theorem Config.cleanedText_emptying :
    let cleanText := Config.emptying.cleanedText (.fixed 0) .all
    cleanText ['a'] = ['a'] ∧ cleanText "damn".toList = [] := by
  intro cleanText
  let ctx := Config.emptying.context (.fixed 0)
  have hMethod : (TermOptions.ofText "damn").methodIn Config.emptying.settings ≠ .regex := by decide
  obtain ⟨t, hCompile⟩ := Term.exists_compile (by decide) hMethod (by decide)
  have ht := Term.prepared_of_compile hCompile
  have hFresh : (Config.emptying.freshSet (Config.emptying.resolve .all)).terms = [t] :=
    Config.terms_freshSet_singleton rfl hCompile ⟨rfl, rfl⟩
  have keeps : t.KeepsLines := Config.keepsLines_emptying.terms t (by simp [hFresh])
  constructor
  · have hSilent : t.occurrences #['a'] = [] := ht.occurrences_of_short hMethod (by decide)
    simp only [cleanText, Config.cleanedText, Config.cleaned, hFresh]
    rw [passes_of_silent (List.forall_mem_singleton.mpr hSilent)]
  · have finds : t.FindsItself := by
      rw [ht.findsItself_iff_suits hMethod, TermOptions.suits_self_iff]
      exact ⟨by decide, by decide +kernel⟩
    have hStrict : ctx.allowList.isEmpty = true := rfl
    have hResult := Turn.result_itself hStrict ht keeps finds .empty (.fixed 0)
    rw [Replacer.replacement_eq_nil rfl rfl (Term.substitutions_of_compile hCompile) rfl,
      ht.text] at hResult
    simp only [cleanText, Config.cleanedText, Config.cleaned, hFresh]
    exact hResult

namespace Engine

/-- Nothing is left of the last line. Alone it is ended all the same, but in the text the line before
it has brought it to an end already. -/
theorem stream_agrees_emptied :
    let c := Config.emptying
    let streamed :=
      (Engine.stream .all (streamLines "a\ndamn".toUTF8.data.toList) (new c (.fixed 0))).1
    let outcome := ((new c (.fixed 0)).expurgate "a\ndamn" .all true).1.outcome
    c.KeepsLines .all ∧ '\r' ∉ "a\ndamn".toList ∧
      streamed.output = "a\n\n" ∧ primaryOutput .default false false outcome = "a\n" := by
  intro c streamed outcome
  have keeps : c.KeepsLines .all := Config.keepsLines_emptying
  obtain ⟨hLetter, hWord⟩ := Config.cleanedText_emptying
  have hJoined : "a\ndamn".toList = joined '\n' [['a']] "damn".toList := by decide
  obtain ⟨-, hOutput, hFiltered, -⟩ := stream_joined c (.fixed 0) (.fixed 0) [] keeps hJoined
    (by decide) (by decide) (by decide)
  rw [show c.after [] = c from rfl, List.map_singleton, hLetter, hWord] at hFiltered
  rw [show c.after [] = c from rfl, show lastOf "damn".toList = ["damn".toList] from rfl,
    List.map_append, List.map_singleton, List.map_singleton, hLetter, hWord] at hOutput
  have hLeft : outcome.filtered = "a\n" := String.toList_inj.mp hFiltered
  refine ⟨keeps, by decide, String.toList_inj.mp hOutput, ?_⟩
  rw [primaryOutput, if_neg Bool.false_ne_true, hLeft]
  decide

end Engine

end Expurgate
