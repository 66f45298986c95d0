import Mathlib.Algebra.GroupWithZero.Nat
import Expurgate.Proofs.Command.Presentation

/-! Matches by term. A summary has one item for each key that some match has, and all matches of that
key are in it. So the total under a table, the total of a scan and the number of matches are one
number, and it decides whether a scan fails. -/
namespace Expurgate

/-- All matches of a list that have one key. -/
def SummaryItem.gathered (l : List TermMatch) (key : String) : SummaryItem :=
  let own := l.filter (·.key = key)
  ⟨key, own.length, own.map (·.found), own.map (·.replacement)⟩

/-- A value at the end is kept if it was not seen before. Summaries grow in the same way. -/
theorem eraseDups_concat (l : List String) (v : String) :
    (l ++ [v]).eraseDups = addValue l.eraseDups v := by
  have hThere : l.eraseDups.contains v = true ↔ v ∈ l := by
    rw [List.contains_iff_mem, List.mem_eraseDups]
  rw [List.eraseDups_append, addValue]
  by_cases hOld : v ∈ l
  · rw [if_pos (hThere.mpr hOld)]
    simp [List.removeAll, hOld]
  · rw [if_neg (mt hThere.mp hOld)]
    simp [List.removeAll, hOld, List.eraseDups_cons]

theorem nodup_eraseDups (l : List String) : l.eraseDups.Nodup := by
  induction l using List.reverseRecOn with
  | nil => exact List.nodup_nil
  | append_singleton l v ih =>
      rw [eraseDups_concat]
      exact nodup_addValue ih

section Gathered

variable {l : List TermMatch} {m : TermMatch} {key : String} {keys : List String}

@[simp]
theorem gathered_key : (SummaryItem.gathered l key).key = key := rfl

/-- A match of another key adds nothing to what is gathered for one. -/
theorem gathered_concat_of_ne (hOther : m.key ≠ key) :
    SummaryItem.gathered (l ++ [m]) key = .gathered l key := by
  simp [SummaryItem.gathered, hOther]

/-- Where there is no match of a key, nothing is gathered for it. -/
theorem gathered_of_not_mem (hNone : key ∉ l.map (·.key)) :
    SummaryItem.gathered l key = ⟨key, 0, [], []⟩ := by
  have hOwn : l.filter (·.key = key) = [] := by
    refine List.filter_eq_nil_iff.mpr fun m hm hKey => hNone ?_
    exact List.mem_map.mpr ⟨m, hm, by simpa using hKey⟩
  rw [SummaryItem.gathered, hOwn]
  rfl

/-- A match of a new key gets an item of its own, behind the others. -/
theorem addToSummary_new (hNew : m.key ∉ keys) (hNone : m.key ∉ l.map (·.key)) :
    addToSummary m (keys.map (.gathered l)) = (keys ++ [m.key]).map (.gathered (l ++ [m])) := by
  induction keys with
  | nil =>
      have hOwn := gathered_of_not_mem hNone
      simp only [SummaryItem.gathered, SummaryItem.mk.injEq, List.length_eq_zero_iff] at hOwn
      simp [addToSummary, SummaryItem.gathered, hOwn.2.1]
  | cons key rest ih =>
      obtain ⟨hOther, hRest⟩ := not_or.mp (List.mem_cons.not.mp hNew)
      rw [List.map_cons, addToSummary, gathered_key, if_neg (Ne.symm hOther), ih hRest,
        List.cons_append, List.map_cons, gathered_concat_of_ne hOther]

/-- A match of a known key is added to its item, and the others stay. -/
theorem addToSummary_known (hKnown : m.key ∈ keys) (hDistinct : keys.Nodup) :
    addToSummary m (keys.map (.gathered l)) = keys.map (.gathered (l ++ [m])) := by
  induction keys with
  | nil => cases hKnown
  | cons key rest ih =>
      obtain ⟨hOnce, hRest⟩ := List.nodup_cons.mp hDistinct
      rw [List.map_cons, List.map_cons, addToSummary, gathered_key]
      by_cases hKey : m.key = key
      · subst hKey
        rw [if_pos rfl]
        congr 1
        · simp [SummaryItem.gathered]
        · refine List.map_congr_left fun other hOther => (gathered_concat_of_ne ?_).symm
          rintro rfl
          exact hOnce hOther
      · rw [if_neg (Ne.symm hKey), gathered_concat_of_ne hKey,
          ih ((List.mem_cons.mp hKnown).resolve_left hKey) hRest]

end Gathered

/-- A summary is made match by match from the front, so a further match is a further step. -/
theorem summarize_concat (l : List TermMatch) (m : TermMatch) :
    summarize (l ++ [m]) = addToSummary m (summarize l) := by
  simp [summarize]

/-- The items of a summary are those of the keys, each in the place of its first match. -/
theorem summarize_eq (l : List TermMatch) :
    summarize l = (l.map (·.key)).eraseDups.map (.gathered l) := by
  induction l using List.reverseRecOn with
  | nil => rfl
  | append_singleton l m ih =>
      rw [summarize_concat, ih, List.map_append, List.map_singleton, eraseDups_concat, addValue]
      split
      · rename_i hKnown
        exact addToSummary_known (List.contains_iff_mem.mp hKnown) (nodup_eraseDups _)
      · rename_i hNew
        have hKey : m.key ∉ (l.map (·.key)).eraseDups := mt List.contains_iff_mem.mpr hNew
        exact addToSummary_new hKey (mt List.mem_eraseDups.mpr hKey)

/-- The items stand in the order of the first match of each key, and no key comes twice. -/
theorem keys_summarize (l : List TermMatch) :
    (summarize l).map (·.key) = (l.map (·.key)).eraseDups := by
  rw [summarize_eq, List.map_map]
  exact List.map_id _

theorem summarize_eq_nil_iff {l : List TermMatch} : summarize l = [] ↔ l = [] := by
  rw [summarize_eq, List.map_eq_nil_iff]
  cases l with
  | nil => simp
  | cons m rest => simp [List.eraseDups_cons]

/-- Items that account for matches: one for each key, in the order of the first matches, with all that
there is of its key. -/
structure Accounts (l : List TermMatch) (items : List SummaryItem) : Prop where
  distinct : (items.map (·.key)).Nodup
  order : items.map (·.key) = (l.map (·.key)).eraseDups
  found : ∀ i ∈ items, i.found = (l.filter (·.key = i.key)).map (·.found)
  replacements : ∀ i ∈ items, i.replacements = (l.filter (·.key = i.key)).map (·.replacement)
  occurrences : ∀ i ∈ items, i.occurrences = (l.filter (·.key = i.key)).length

/-- The summary of some matches accounts for all of them, and for nothing else. -/
theorem accounts_summarize (l : List TermMatch) : Accounts l (summarize l) := by
  have hGathered : ∀ i ∈ summarize l, i = .gathered l i.key := by
    intro i hi
    rw [summarize_eq] at hi
    obtain ⟨key, -, rfl⟩ := List.mem_map.mp hi
    rfl
  refine ⟨?_, keys_summarize l, fun i hi => ?_, fun i hi => ?_, fun i hi => ?_⟩
  · rw [keys_summarize]
    exact nodup_eraseDups _
  · exact congrArg SummaryItem.found (hGathered i hi)
  · exact congrArg SummaryItem.replacements (hGathered i hi)
  · exact congrArg SummaryItem.occurrences (hGathered i hi)

section Totals

theorem totalOccurrences_eq_sum (items : List SummaryItem) :
    totalOccurrences items = (items.map (·.occurrences)).sum := by
  rw [List.sum_eq_foldl, List.foldl_map]
  rfl

/-- Whether a match is added to an item or makes a new one, it counts once. -/
theorem totalOccurrences_addToSummary (m : TermMatch) (items : List SummaryItem) :
    totalOccurrences (addToSummary m items) = totalOccurrences items + 1 := by
  simp only [totalOccurrences_eq_sum]
  induction items with
  | nil => rfl
  | cons item rest ih =>
      rw [addToSummary]
      split
      · simp only [List.map_cons, List.sum_cons]
        omega
      · simp only [List.map_cons, List.sum_cons, ih]
        omega

/-- The total of a summary is the number of matches, though it is computed from the items alone. -/
theorem totalOccurrences_summarize (l : List TermMatch) :
    totalOccurrences (summarize l) = l.length := by
  induction l using List.reverseRecOn with
  | nil => rfl
  | append_singleton l m ih =>
      rw [summarize_concat, totalOccurrences_addToSummary, ih, List.length_append]
      rfl

/-- Below the table of some matches their number is told. -/
theorem summaryReport_summarize (t : Theme) (colours : Bool) (l : List TermMatch) :
    summaryReport t colours (summarize l) =
      line (t.paint colours .header "--- Match Summary ---") ++
        if l = [] then line "No configured terms found."
        else
          Table.render ["Term", "Occurrences", "Rewritten as"] ((summarize l).map SummaryItem.row) ++
            line s!"Total: {l.length} matches across {(summarize l).length} terms." := by
  simp only [summaryReport, totalOccurrences_summarize, List.isEmpty_iff, summarize_eq_nil_iff]

/-- A limit is exceeded by more matches than it allows, and not by as many. -/
theorem ScanReport.exceeds_iff {r : ScanReport} {limit : Nat} :
    r.exceeds (some limit) = true ↔ limit < r.totalMatches := by
  simp [exceeds]

variable {w : World} {t : Theme} {quiet : Bool} {o : ScanOptions} {c : Config} {profile : ProfileId}
  {text : String}

/-- A scan that can be begun, and that has the room for its masks, fails only for the number of matches
that a new engine finds. -/
theorem error_runScan (hConfig : w.config o.source.config = .ok c)
    (hProfile : requestedProfile o.source.profile = .ok profile)
    (hInput : w.input o.inputFile = .ok text) :
    let e := Engine.new c (w.selector none)
    let total := (e.expurgate text profile false).1.outcome.matched.length
    (runScan w t quiet o).error =
      o.threshold.bind fun limit =>
        if limit < total then some (.threshold total limit) else none := by
  intro e total
  have alike : e.Alike (e.begun t w.stderrTerminal profile (quiet || o.json)).2 :=
    (Engine.Alike.new c (.inl rfl)).begun t w.stderrTerminal profile true (quiet || o.json)
  have hTotal : ((e.begun t w.stderrTerminal profile (quiet || o.json)).2.scan text
      profile).1.totalMatches = total :=
    congrArg ScanReport.totalMatches (alike.scan text profile).1
  rw [runScan, hConfig, hProfile]
  dsimp only
  rw [hInput]
  dsimp only
  rw [← hTotal]
  cases hLimit : o.threshold with
  | none => rfl
  | some limit =>
      simp only [Option.bind_some, ScanReport.exceeds_iff]
      rfl

end Totals

/-- Summaries account for every match: the items of a summary for all of them, and the total below its
table is their number. This is what a scan reports as its total and compares with a limit, and a scan
that can be begun, and that has the room for its masks, fails exactly if the limit is exceeded. -/
theorem matches_accounted :
    (∀ l, Accounts l (summarize l) ∧ ∀ (t : Theme) (colours : Bool),
      summaryReport t colours (summarize l) =
        line (t.paint colours .header "--- Match Summary ---") ++
          if l = [] then line "No configured terms found."
          else
            Table.render ["Term", "Occurrences", "Rewritten as"]
                ((summarize l).map SummaryItem.row) ++
              line s!"Total: {l.length} matches across {(summarize l).length} terms.") ∧
    (∀ (e : Engine) (text : String) (profile : ProfileId),
      let found := (e.expurgate text profile false).1.outcome.matched
      let report := (e.scan text profile).1
      report.terms = summarize found ∧ report.totalMatches = found.length ∧
        ∀ limit, report.exceeds (some limit) = true ↔ limit < found.length) ∧
    ∀ (w : World) (t : Theme) (quiet : Bool) (o : ScanOptions) (c : Config) (profile : ProfileId)
      (text : String), w.config o.source.config = .ok c →
      requestedProfile o.source.profile = .ok profile → w.input o.inputFile = .ok text →
      let e := Engine.new c (w.selector none)
      let total := (e.expurgate text profile false).1.outcome.matched.length
      (runScan w t quiet o).error =
        o.threshold.bind fun limit =>
          if limit < total then some (.threshold total limit) else none :=
  ⟨fun l => ⟨accounts_summarize l, fun t colours => summaryReport_summarize t colours l⟩,
    fun _ _ _ => ⟨rfl, rfl, fun _ => ScanReport.exceeds_iff⟩,
    fun _ _ _ _ _ _ _ hConfig hProfile hInput => error_runScan hConfig hProfile hInput⟩

/-- Where one match is allowed, a scan of two bad words fails exactly if it finds more than one. -/
theorem matches_accounted_builtIn :
    let w := World.plain (utf8 "damn, damn\n".toList) ⟨[], []⟩
    let o : ScanOptions := ⟨⟨none, none⟩, none, some 1, false⟩
    let total := ((Engine.new .builtIn (w.selector none)).expurgate "damn, damn\n" .all
      false).1.outcome.matched.length
    w.config o.source.config = .ok Config.builtIn ∧
      requestedProfile o.source.profile = .ok .all ∧ w.input o.inputFile = .ok "damn, damn\n" ∧
      ((runScan w .default true o).error =
        if 1 < total then some (.threshold total 1) else none) := by
  intro w o total
  have hConfig : w.config o.source.config = .ok Config.builtIn := World.config_builtIn rfl
  have hInput : w.input o.inputFile = .ok "damn, damn\n" := by
    have hText : decodeText w.stdin = some (String.ofList "damn, damn\n".toList) := decodeText_utf8 _
    simp only [World.input, o, hText, String.ofList_toList]
  obtain ⟨-, -, hScan⟩ := matches_accounted
  exact ⟨hConfig, rfl, hInput, hScan w .default true o .builtIn .all _ hConfig rfl hInput⟩

end Expurgate
