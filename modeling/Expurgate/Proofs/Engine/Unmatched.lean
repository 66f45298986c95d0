import Expurgate.Proofs.Engine.Stream

/-! Texts in which nothing is matched. They stay as they are, but line by line a stream ends its
lines with line feeds alone, so carriage returns in front of them are lost. -/
namespace Expurgate

section Returns

/-- A text without the carriage returns that stand directly in front of a line feed. -/
def dropReturns : List Char → List Char
  | [] => []
  | c :: rest => if c = '\r' ∧ rest.head? = some '\n' then dropReturns rest else c :: dropReturns rest

variable {l line rest : List Char}

/-- Only characters are dropped. -/
theorem length_dropReturns_le (l : List Char) : (dropReturns l).length ≤ l.length := by
  induction l with
  | nil => exact Nat.le_refl _
  | cons c rest ih =>
      rw [dropReturns]
      split <;> simp only [List.length_cons] <;> omega

/-- A text comes through unchanged exactly if none of its line feeds has a carriage return before
it. Carriage returns elsewhere do no harm. -/
theorem dropReturns_eq_self_iff : dropReturns l = l ↔ ¬['\r', '\n'] <:+: l := by
  induction l with
  | nil => simp [dropReturns]
  | cons c rest ih =>
      have hPrefix : ['\r', '\n'] <+: c :: rest ↔ c = '\r' ∧ rest.head? = some '\n' := by
        rw [List.cons_prefix_cons, eq_comm, List.singleton_prefix_iff_head?_eq_some]
      rw [dropReturns, List.infix_cons_iff, hPrefix, not_or]
      split
      · rename_i hReturn
        refine iff_of_false (fun hSame => ?_) fun hNone => hNone.1 hReturn
        have hShort := length_dropReturns_le rest
        rw [hSame, List.length_cons] at hShort
        omega
      · rename_i hNot
        rw [List.cons_inj_right, ih]
        exact (and_iff_right hNot).symm

/-- The last character is never dropped, because a carriage return goes only where a line feed
follows it. -/
theorem getLast?_dropReturns (l : List Char) : (dropReturns l).getLast? = l.getLast? := by
  induction l with
  | nil => rfl
  | cons c rest ih =>
      rw [dropReturns]
      split
      · rename_i hReturn
        rw [ih, List.getLast?_cons_of_ne_nil (by rintro rfl; cases hReturn.2)]
      · rw [List.getLast?_cons, List.getLast?_cons, ih]

theorem dropReturns_of_not_mem (hFeed : '\n' ∉ l) : dropReturns l = l := by
  refine dropReturns_eq_self_iff.mpr fun hInfix => hFeed ?_
  exact hInfix.subset (by simp)

/-- Of a line that is ended by a line feed, one carriage return is dropped. -/
theorem dropReturns_line (hLine : '\n' ∉ line) (rest : List Char) :
    dropReturns (line ++ '\n' :: rest) = dropEnding '\r' line ++ '\n' :: dropReturns rest := by
  induction line with
  | nil => rw [List.nil_append, dropReturns, if_neg (by simp)]; rfl
  | cons c line ih =>
      obtain ⟨hc, hRest⟩ := not_or.mp (mt List.mem_cons.mpr hLine)
      rw [List.cons_append, dropReturns, ih hRest]
      cases line with
      | nil => by_cases hReturn : c = '\r' <;> simp [dropEnding, hReturn]
      | cons d line =>
          have hd : d ≠ '\n' := fun hSame => hRest (by simp [hSame])
          rw [if_neg (by simp [hd]), dropEnding, dropEnding, List.getLast?_cons_cons]
          split <;> simp

/-- To drop the returns of a text is to drop the one at the end of each finished line. The last line
has no line feed after it and so it keeps its own. -/
theorem dropReturns_joined {lines : List (List Char)} {last : List Char}
    (hLines : ∀ line ∈ lines, '\n' ∉ line) (hLast : '\n' ∉ last) :
    dropReturns (joined '\n' lines last) = joined '\n' (lines.map (dropEnding '\r')) last := by
  induction lines with
  | nil => exact dropReturns_of_not_mem hLast
  | cons line lines ih =>
      obtain ⟨hFirst, hOthers⟩ := List.forall_mem_cons.mp hLines
      rw [joined_cons, dropReturns_line hFirst, ih hOthers, List.map_cons, joined_cons]

/-- A final line feed may be missing or not, and once it is added this can no longer be told. The
last character decides which of the two it was. -/
theorem closeLine_inj {s s' : String} (hLast : s.toList.getLast? = s'.toList.getLast?)
    (hSame : closeLine s = closeLine s') : s = s' := by
  rw [closeLine, closeLine, hLast] at hSame
  split at hSame
  · exact hSame
  · rw [line, line, ← String.toList_inj, String.toList_append, String.toList_append] at hSame
    exact String.toList_inj.mp (List.append_cancel_right hSame)

/-- A closed text is made of closed lines, unless it was empty. -/
theorem closeLine_joined_of_ne_nil {s : String} {lines : List (List Char)} {last : List Char}
    (hText : s.toList = joined '\n' lines last) (hLast : '\n' ∉ last)
    (hSome : lines ≠ [] ∨ last ≠ []) :
    (closeLine s).toList = (lines ++ lastOf last).flatMap (· ++ ['\n']) := by
  rw [closeLine_joined hText hLast, lastOf]
  by_cases hEnded : last = []
  · simp [hEnded, hSome.resolve_right (not_not_intro hEnded)]
  · simp [hEnded]

/-- The lines of a text without the returns at their ends, each of them ended. Of an empty text there
are none, and so it is not ended. -/
theorem flatMap_lines_eq {text : String} {lines : List (List Char)} {last : List Char}
    (hText : text.toList = joined '\n' lines last) (hLines : ∀ line ∈ lines, '\n' ∉ line)
    (hLast : '\n' ∉ last) :
    (lines.map (dropEnding '\r') ++ lastOf last).flatMap (· ++ ['\n']) =
      (if text = "" then "" else closeLine (String.ofList (dropReturns text.toList))).toList := by
  have hDropped : (String.ofList (dropReturns text.toList)).toList =
      joined '\n' (lines.map (dropEnding '\r')) last := by
    rw [String.toList_ofList, hText, dropReturns_joined hLines hLast]
  have hEmpty : text = "" ↔ lines = [] ∧ last = [] := by
    rw [← String.toList_eq_nil_iff, hText, joined_eq_nil_iff]
  split
  · rename_i hNone
    obtain ⟨rfl, rfl⟩ := hEmpty.mp hNone
    rfl
  · rename_i hSome
    have hLines' : lines.map (dropEnding '\r') ≠ [] ∨ last ≠ [] := by
      rwa [hEmpty, not_and_or, ← List.map_eq_nil_iff (f := dropEnding '\r')] at hSome
    rw [closeLine_joined_of_ne_nil hDropped hLast hLines']

/-- To drop the returns shows in the closed text exactly if there is one in front of a line feed. -/
theorem closeLine_dropReturns_eq_iff (text : String) :
    (if text = "" then "" else closeLine (String.ofList (dropReturns text.toList))) =
      (if text = "" then "" else closeLine text) ↔ ¬['\r', '\n'] <:+: text.toList := by
  rw [← dropReturns_eq_self_iff]
  by_cases hEmpty : text = ""
  · simp [hEmpty, dropReturns]
  · rw [if_neg hEmpty, if_neg hEmpty]
    constructor
    · intro hSame
      have hLasts : (String.ofList (dropReturns text.toList)).toList.getLast? =
          text.toList.getLast? := by
        rw [String.toList_ofList, getLast?_dropReturns]
      rw [← String.toList_ofList (l := dropReturns text.toList), closeLine_inj hLasts hSame]
    · intro hSame
      rw [hSame, String.ofList_toList]

end Returns

/-- A replay in which no group has a match ends with the text that it began with. -/
theorem Replays.eq_of_nothing {r : Replacer} {terms : List Term} {text final : List Char}
    {groups : List (List TermMatch)} (replays : Replays r terms text groups final)
    (hNone : groups.flatten = []) : final = text := by
  induction replays with
  | done => rfl
  | turn edits _ ih =>
      rw [List.flatten_cons, List.append_eq_nil_iff] at hNone
      rw [ih hNone.2]
      cases edits with
      | rest => rfl
      | edit => simp at hNone

/-- The lines of a stream up to the first one that is no text. -/
def readable : List (Option String) → List String
  | some text :: rest => text :: readable rest
  | _ => []

theorem readable_map_some (l : List String) : readable (l.map some) = l := by
  induction l with
  | nil => rfl
  | cons text rest ih => rw [List.map_cons, readable, ih]

/-- The outcomes of texts that are expurgated one after another. -/
def Engine.outcomes (profile : ProfileId) : Engine → List String → List Outcome
  | _, [] => []
  | e, text :: rest =>
    let (done, e) := e.expurgate text profile true
    done.outcome :: Engine.outcomes profile e rest

namespace Engine

variable (c : Config) (selector : Selector) (before : List Operation) (profile : ProfileId)

/-- Where nothing is replaced, nothing changes. -/
theorem filtered_of_unmatched (text : String) (record : Bool) :
    let outcome := (((new c selector).after before).expurgate text profile record).1.outcome
    outcome.matched = [] → outcome.filtered = text := by
  intro outcome hNone
  have hOutcome : outcome = _ := outcome_after c selector before text profile record
  by_cases hIdle : (c.after before).settings.filterMethod = .off ∨ text = ""
  · rw [hOutcome, if_pos hIdle]
    rfl
  · rw [if_neg hIdle] at hOutcome
    rw [hOutcome] at hNone ⊢
    have hPrepared : ∀ t ∈ ((c.after before).freshSet ((c.after before).resolve profile)).terms,
        ∃ o, Term.Prepared o (c.after before).settings t := by
      intro t hMem
      obtain ⟨o, -, ht⟩ := (c.after before).prepared_of_mem_freshSet _ t hMem
      exact ⟨o, ht⟩
    obtain ⟨groups, hFlatten, replays⟩ := @replays_passes
      ((c.after before).context ((new c selector).after before).selector) _ _ hPrepared
      text.toList.toArray .empty
    have hSame := replays.eq_of_nothing (hFlatten.trans hNone)
    rw [TermSet.expurgate, ← String.toList_inj, String.toList_ofList]
    exact hSame

/-- Nothing is matched in a text that is shorter than every term. -/
theorem matched_of_short (text : String) (record : Bool)
    (hShort : ∀ o ∈ (c.after before).terms,
      o.methodIn (c.after before).settings ≠ .regex ∧ text.length < o.text.length) :
    (((new c selector).after before).expurgate text profile record).1.outcome.matched = [] := by
  have hSilent : ∀ t ∈ ((c.after before).freshSet ((c.after before).resolve profile)).terms,
      t.occurrences text.toList.toArray = [] := by
    intro t hMem
    obtain ⟨o, ho, ht⟩ := (c.after before).prepared_of_mem_freshSet _ t hMem
    obtain ⟨hMethod, hLess⟩ := hShort o ho
    apply ht.occurrences_of_short hMethod
    rwa [List.size_toArray, String.length_toList, String.length_toList]
  rw [outcome_after]
  split
  · rfl
  · rw [TermSet.expurgate, passes_of_silent hSilent]
    rfl

/-- Where nothing is replaced, nothing is replaced after other requests that leave the configuration
in effect. -/
theorem unmatched_later (text text' : String) (record : Bool) :
    let e := (new c selector).after before
    let later := (new c selector).after (before ++ [.expurgate text profile true])
    (e.expurgate text' profile record).1.outcome.matched = [] →
      (later.expurgate text' profile record).1.outcome.matched = [] := by
  intro e later hNone
  have hConfig : c.after (before ++ [.expurgate text profile true]) = c.after before :=
    List.foldl_concat ..
  rw [outcome_after] at hNone ⊢
  rw [hConfig]
  split
  · rfl
  · rename_i hBusy
    rw [if_neg hBusy] at hNone
    exact unmatched_passes_congr ((c.after before).context e.selector)
      ((c.after before).context later.selector) rfl hNone

/-- The lines of a stream are expurgated one after another, up to the first that is no text. -/
theorem stream_outcomes (profile : ProfileId) (lines : List (Option String)) (e : Engine) :
    let streamed := (Engine.stream profile lines e).1
    let outcomes := Engine.outcomes profile e (readable lines)
    streamed.output.toList = outcomes.flatMap (fun o => (line o.filtered).toList) ∧
      streamed.matched = outcomes.flatMap (·.matched) ∧ (streamed.fault = none ↔ none ∉ lines) := by
  induction lines generalizing e with
  | nil => exact ⟨rfl, rfl, by simp [Engine.stream]⟩
  | cons first rest ih =>
      cases first with
      | none => exact ⟨rfl, rfl, by simp [Engine.stream]⟩
      | some text =>
          obtain ⟨hOutput, hMatched, hFault⟩ := ih (e.expurgate text profile true).2
          simp only [Engine.stream, readable, Engine.outcomes, List.flatMap_cons,
            String.toList_append, hOutput, hMatched, hFault]
          exact ⟨trivial, trivial, by simp⟩

/-- Lines in which nothing is replaced come out as they are. -/
theorem outcomes_of_unmatched (texts : List String) :
    let e := (new c selector).after before
    (∀ text ∈ texts, (e.expurgate text profile true).1.outcome.matched = []) →
    (Engine.outcomes profile e texts).map (·.filtered) = texts ∧
      (Engine.outcomes profile e texts).flatMap (·.matched) = [] := by
  induction texts generalizing before with
  | nil => exact fun _ => ⟨rfl, rfl⟩
  | cons text rest ih =>
      intro e hNone
      obtain ⟨hFirst, hRest⟩ := List.forall_mem_cons.mp hNone
      have hNext : (e.expurgate text profile true).2 =
          (new c selector).after (before ++ [.expurgate text profile true]) :=
        (after_concat _ before (.expurgate text profile true)).symm
      obtain ⟨hFiltered, hMatched⟩ := ih (before ++ [.expurgate text profile true])
        fun text' hMem => unmatched_later c selector before profile text text' true (hRest _ hMem)
      simp only [Engine.outcomes, hNext, List.map_cons, List.flatMap_cons, hFiltered, hMatched]
      exact ⟨by rw [filtered_of_unmatched c selector before profile text true hFirst],
        List.append_eq_nil_iff.mpr ⟨hFirst, rfl⟩⟩

/-- A text in which no line has a match is written line by line as it is, and its last line is ended
where it was not, but every carriage return in front of a line feed is lost. So the text stays
exactly if there are none. -/
theorem stream_unmatched {bytes : List UInt8} {text : String} :
    let e := (new c selector).after before
    let streamed := (Engine.stream profile (streamLines bytes) e).1
    decodeText bytes = some text →
    (∀ l, some l ∈ streamLines bytes → (e.expurgate l profile true).1.outcome.matched = []) →
    streamed.fault = none ∧ streamed.matched = [] ∧
      streamed.output =
        (if text = "" then "" else closeLine (String.ofList (dropReturns text.toList))) ∧
      (streamed.output = (if text = "" then "" else closeLine text) ↔
        ¬['\r', '\n'] <:+: text.toList) := by
  intro e streamed hText hClean
  obtain ⟨lines, last, hJoined, hLines, hLast⟩ := exists_joined '\n' text.toList
  have hStream : streamLines bytes =
      ((lines.map (dropEnding '\r') ++ lastOf last).map String.ofList).map some := by
    rw [eq_utf8_of_decodeText hText, hJoined, streamLines_utf8 hLines hLast, List.map_map]
    rfl
  obtain ⟨hOutput, hMatched, hFault⟩ := stream_outcomes profile (streamLines bytes) e
  have hReadable : readable (streamLines bytes) =
      (lines.map (dropEnding '\r') ++ lastOf last).map String.ofList := by
    rw [hStream, readable_map_some]
  have hUnmatched : ∀ l ∈ (lines.map (dropEnding '\r') ++ lastOf last).map String.ofList,
      (e.expurgate l profile true).1.outcome.matched = [] := by
    intro l hMem
    exact hClean l (by rw [hStream]; exact List.mem_map_of_mem hMem)
  obtain ⟨hKept, hNone⟩ := outcomes_of_unmatched c selector before profile _ hUnmatched
  rw [hReadable] at hOutput hMatched
  have hWritten : streamed.output.toList =
      (lines.map (dropEnding '\r') ++ lastOf last).flatMap (· ++ ['\n']) := by
    have hEach : streamed.output.toList = ((outcomes profile e _).map Outcome.filtered).flatMap
        fun s => (line s).toList :=
      hOutput.trans (List.flatMap_map Outcome.filtered (fun s => (line s).toList) _).symm
    rw [hEach, hKept, List.flatMap_map]
    refine List.flatMap_congr fun l _ => ?_
    rw [line, String.toList_append, String.toList_ofList]
    rfl
  have hClosed : streamed.output =
      (if text = "" then "" else closeLine (String.ofList (dropReturns text.toList))) :=
    String.toList_inj.mp (hWritten.trans (flatMap_lines_eq hJoined hLines hLast))
  refine ⟨hFault.mpr (none_not_mem_streamLines hText), hMatched.trans hNone, hClosed, ?_⟩
  rw [hClosed]
  exact closeLine_dropReturns_eq_iff text

/-- The carriage return that ends a line together with a line feed is lost, the one that begins a line
is not. -/
theorem stream_unmatched_returns :
    let c : Config := { Config.empty with terms := [.ofText "damn"] }
    let text := "a\r\n\rb"
    let bytes := utf8 text.toList
    let streamed := (Engine.stream .all (streamLines bytes) (new c (.fixed 0))).1
    decodeText bytes = some text ∧
      (∀ l, some l ∈ streamLines bytes →
        ((new c (.fixed 0)).expurgate l .all true).1.outcome.matched = []) ∧
      streamed.output = "a\n\rb\n" ∧ streamed.output ≠ closeLine text := by
  intro c text bytes streamed
  have hText : decodeText bytes = some text := by rw [decodeText_utf8, String.ofList_toList]
  have hJoined : text.toList = joined '\n' [['a', '\r']] ['\r', 'b'] := by decide
  have hLines : streamLines bytes = [some "a", some "\rb"] := by
    rw [show bytes = utf8 text.toList from rfl, hJoined, streamLines_utf8 (by decide) (by decide)]
    rfl
  have hClean : ∀ l, some l ∈ streamLines bytes →
      ((new c (.fixed 0)).expurgate l .all true).1.outcome.matched = [] := by
    intro l hMem
    refine matched_of_short c (.fixed 0) [] .all l true (List.forall_mem_singleton.mpr ?_)
    simp only [hLines, List.mem_cons, Option.some.injEq, List.not_mem_nil, or_false] at hMem
    rcases hMem with rfl | rfl <;> exact ⟨by decide, by decide⟩
  obtain ⟨-, -, hOutput, hStays⟩ := stream_unmatched c (.fixed 0) [] .all hText hClean
  refine ⟨hText, hClean, hOutput.trans (by decide), fun hSame => ?_⟩
  exact hStays.mp (hSame.trans (if_neg (by decide)).symm) ⟨['a'], ['\r', 'b'], by decide⟩

end Engine

end Expurgate
