import Expurgate.Proofs.Command.Output

/-! What a run tells its user besides its results. The words that ask for less of it may stand at any
place where they can be read. They change the messages, and nothing else of what a run leaves. -/
namespace Expurgate

def quietWords : List String := ["-q", "--quiet"]

/-- The words for telling less: nothing at all, or all but the summary. -/
def hushWords : List String := "--no-summary" :: quietWords

/-- The same request with its own wish for the summary, and with a seed in place of its own. -/
def FilterOptions.telling (o : FilterOptions) (noSummary : Bool) (seed : Option Nat) :
    FilterOptions :=
  { o with noSummary := noSummary, seed := seed }

namespace Invocation

/-- The same request, with less to be told if so wished. Only a request to expurgate has a summary
that can be left out for itself. -/
def hushed (i : Invocation) (quiet noSummary : Bool) : Invocation :=
  { i with
    quiet := i.quiet || quiet
    command := match i.command with
      | .filter o => .filter (o.telling (o.noSummary || noSummary) o.seed)
      | other => other }

/-- The same request with a seed in place of its own. -/
def reseeded (i : Invocation) (seed : Option Nat) : Invocation :=
  { i with
    command := match i.command with
      | .filter o => .filter (o.telling o.noSummary seed)
      | other => other }

/-- A request without any wish about what is told. -/
structure Plain (i : Invocation) : Prop where
  quiet : i.quiet = false
  debug : i.debug = false
  summary : ∀ o, i.command = .filter o → o.noSummary = false

/-- Where no wish is added, the request is the same. The words are taken away one by one, and this
is where it ends. -/
theorem hushed_self (i : Invocation) : i.hushed false false = i := by
  obtain ⟨quiet, debug, themeFile, command⟩ := i
  cases command <;> simp [hushed, FilterOptions.telling]

/-- Wishes for less add up, in whatever order they are made. -/
theorem hushed_hushed (i : Invocation) (quiet quiet' noSummary noSummary' : Bool) :
    (i.hushed quiet noSummary).hushed quiet' noSummary' =
      i.hushed (quiet || quiet') (noSummary || noSummary') := by
  obtain ⟨_, _, _, command⟩ := i
  cases command <;> simp [hushed, FilterOptions.telling, Bool.or_assoc]

end Invocation

section Words

variable {specs : List OptionSpec} {word name command : String}

/-- A word without a value spells its option wherever it can be read at all. It may also be one that
is refused at some places, since there is nothing to show then. -/
theorem spelling_of_switch (hWord : canBeValue word = false) (hDashes : word.toList ≠ ['-', '-'])
    (hRead : ∀ g rest, readWord specs word g rest = (Given.add g name "").map (·, rest) ∨
      readWord specs word g rest = .error .unclear) :
    Spelling specs name word [] where
  word := hWord
  dashes := hDashes
  option g behind g' rest hOption := by
    rcases hRead g ([] ++ behind) with hSwitch | hNone
    · rw [hSwitch] at hOption
      obtain ⟨hNew, hAdded, hRest⟩ := add_map_eq_ok hOption
      exact ⟨"", hNew, hAdded, hRest.symm⟩
    · rw [hNone] at hOption
      cases hOption

/-- In front of the command the word is known under both of its names. -/
theorem readWord_quiet_outer (hMem : word ∈ quietWords) (g : Given) (rest : List String) :
    readWord rootSpecs word g rest = (g.add "quiet" "").map (·, rest) := by
  obtain rfl | rfl : word = "-q" ∨ word = "--quiet" := by simpa [quietWords] using hMem
  · cases hGiven : g.has "quiet" <;>
      simp [readWord, addShort, rootSpecs, commonSpecs, Given.add, hGiven] <;> rfl
  · rfl

/-- Behind the command it is known as well, whichever command it is. -/
theorem readWord_quiet_inner (hMem : word ∈ quietWords) (command : String) (g : Given)
    (rest : List String) :
    readWord (specsOf command) word g rest = (g.add "quiet" "").map (·, rest) := by
  obtain rfl | rfl : word = "-q" ∨ word = "--quiet" := by simpa [quietWords] using hMem
  · cases hGiven : g.has "quiet" <;>
      simp [readWord, addShort, specsOf, commonSpecs, Given.add, hGiven] <;> rfl
  · rfl

theorem readWord_summary (g : Given) (rest : List String) :
    readWord (specsOf "filter") "--no-summary" g rest = (g.add "no-summary" "").map (·, rest) := rfl

/-- In front of the command nobody knows of a summary. -/
theorem readWord_summary_outer (g : Given) (rest : List String) :
    readWord rootSpecs "--no-summary" g rest = .error .unclear := rfl

/-- The other commands do not know of a summary that can be left out. -/
theorem readWord_summary_other (hOther : command ≠ "filter") (g : Given) (rest : List String) :
    readWord (specsOf command) "--no-summary" g rest = .error .unclear := by
  by_cases hScan : command = "scan"
  · subst hScan
    rfl
  · rw [specsOf, if_neg hOther, if_neg hScan]
    rfl

/-- None of these words can be the value of an option, so to add one never turns it into such a
value. -/
theorem canBeValue_hushWords : ∀ word ∈ hushWords, canBeValue word = false := by decide

theorem dashes_hushWords : ∀ word ∈ hushWords, word.toList ≠ ['-', '-'] := by decide

theorem spelling_quiet_outer (hMem : word ∈ quietWords) : Spelling rootSpecs "quiet" word [] :=
  spelling_of_switch (canBeValue_hushWords word (.tail _ hMem)) (dashes_hushWords word (.tail _ hMem))
    fun g rest => .inl (readWord_quiet_outer hMem g rest)

theorem spelling_quiet_inner (hMem : word ∈ quietWords) (command : String) :
    Spelling (specsOf command) "quiet" word [] :=
  spelling_of_switch (canBeValue_hushWords word (.tail _ hMem)) (dashes_hushWords word (.tail _ hMem))
    fun g rest => .inl (readWord_quiet_inner hMem command g rest)

theorem spelling_summary_outer : Spelling rootSpecs "no-summary" "--no-summary" [] :=
  spelling_of_switch rfl (by decide) fun g rest => .inr (readWord_summary_outer g rest)

theorem spelling_summary_inner (command : String) :
    Spelling (specsOf command) "no-summary" "--no-summary" [] := by
  refine spelling_of_switch rfl (by decide) fun g rest => ?_
  by_cases hFilter : command = "filter"
  · subst hFilter
    exact .inl (readWord_summary g rest)
  · exact .inr (readWord_summary_other hFilter g rest)

end Words

section Crossing

variable {outer outer' inner inner' : Given} {command : String}

/-- In front of the command the word does nothing but ask for silence. -/
theorem invocationOf_quiet_outer (crosses : outer.Crosses outer' "quiet") :
    invocationOf outer command inner = (invocationOf outer' command inner).hushed true false := by
  have hTheme : List.lookup "theme" outer = List.lookup "theme" outer' :=
    crosses.lookup (by decide)
  simp only [invocationOf, crosses.has, hTheme, Invocation.hushed]
  unfold commandOf
  split
  · simp [FilterOptions.telling]
  · split <;> simp

/-- Nor does it behind the command. -/
theorem invocationOf_quiet_inner (crosses : inner.Crosses inner' "quiet") :
    invocationOf outer command inner = (invocationOf outer command inner').hushed true false := by
  have hLookup : ∀ other, other ≠ "quiet" → List.lookup other inner = List.lookup other inner' :=
    fun _ hOther => crosses.lookup hOther
  simp only [invocationOf, Invocation.hushed, crosses.has]
  unfold commandOf
  split
  · simp [FilterOptions.telling, crosses.has, hLookup]
  · split <;> simp [crosses.has, hLookup]

/-- The word against the summary leaves all else of the request as it is. Other commands do not look
at it. -/
theorem invocationOf_summary (crosses : inner.Crosses inner' "no-summary") :
    invocationOf outer command inner = (invocationOf outer command inner').hushed false true := by
  have hLookup : ∀ other, other ≠ "no-summary" →
      List.lookup other inner = List.lookup other inner' := fun _ hOther => crosses.lookup hOther
  simp only [invocationOf, Invocation.hushed, crosses.has]
  unfold commandOf
  split
  · simp [FilterOptions.telling, crosses.has, hLookup]
  · split <;> simp [crosses.has, hLookup]

/-- The words for telling less are read wherever they stand, and the rest of the request is the
same. -/
theorem asked_hushed_word {word : String} {before behind : List String} {i : Invocation}
    (hMem : word ∈ hushWords) (hAsked : asked (before ++ word :: behind) = .run i) :
    ∃ i', asked (before ++ behind) = .run i' ∧
      i = i'.hushed (quietWords.contains word) (word == "--no-summary") := by
  rcases List.mem_cons.mp hMem with rfl | hQuiet
  · obtain ⟨outer, command, inner, outer', inner', rfl, hCrossed,
        ⟨rfl, crosses⟩ | ⟨-, -, g, rest, result, hReadable⟩⟩ :=
      asked_without spelling_summary_outer (fun _ command _ _ => spelling_summary_inner command)
        hAsked
    · exact ⟨_, hCrossed, invocationOf_summary crosses⟩
    · rw [readWord_summary_outer] at hReadable
      cases hReadable
  · have hWord : quietWords.contains word = true ∧ (word == "--no-summary") = false := by
      obtain rfl | rfl : word = "-q" ∨ word = "--quiet" := by simpa [quietWords] using hQuiet
      all_goals decide
    rw [hWord.1, hWord.2]
    obtain ⟨outer, command, inner, outer', inner', rfl, hCrossed,
        ⟨rfl, crosses⟩ | ⟨rfl, crosses, -⟩⟩ :=
      asked_without (spelling_quiet_outer hQuiet)
        (fun _ command _ _ => spelling_quiet_inner hQuiet command) hAsked
    · exact ⟨_, hCrossed, invocationOf_quiet_inner crosses⟩
    · exact ⟨_, hCrossed, invocationOf_quiet_outer crosses⟩

/-- However many words for telling less a command line has, and wherever it has them: it asks for
what the other words ask for, and for less to be told. -/
theorem asked_hushed {args args' : List String} {i' : Invocation}
    (hWords : args'.filter (!hushWords.contains ·) = args) (hAsked : asked args' = .run i') :
    ∃ i, asked args = .run i ∧
      i' = i.hushed (args'.any quietWords.contains) (args'.contains "--no-summary") := by
  induction hLength : args'.length using Nat.strong_induction_on generalizing args' i' with
  | h n ih =>
      by_cases hNone : ∀ word ∈ args', word ∉ hushWords
      · have hSame : args' = args := by
          rw [← hWords]
          exact (List.filter_eq_self.mpr fun word hMem => by simpa using hNone word hMem).symm
        have hQuiet : args'.any quietWords.contains = false :=
          List.any_eq_false.mpr fun word hMem hQuiet =>
            hNone word hMem (.tail _ (List.contains_iff_mem.mp hQuiet))
        have hSummary : args'.contains "--no-summary" = false :=
          Bool.eq_false_iff.mpr fun hMem => hNone _ (List.contains_iff_mem.mp hMem) (.head _)
        subst hSame
        rw [hQuiet, hSummary]
        exact ⟨i', hAsked, i'.hushed_self.symm⟩
      · obtain ⟨word, hMem, hHush⟩ : ∃ word ∈ args', word ∈ hushWords := by
          simpa using hNone
        obtain ⟨before, behind, rfl⟩ := List.append_of_mem hMem
        obtain ⟨i₁, hAsked₁, rfl⟩ := asked_hushed_word hHush hAsked
        have hRest : (before ++ behind).filter (!hushWords.contains ·) = args := by
          rw [← hWords]
          simp [hHush]
        have hShorter : (before ++ behind).length < n := by
          rw [← hLength, List.length_append, List.length_append, List.length_cons]
          omega
        obtain ⟨i, hAsked', rfl⟩ := ih _ hShorter hRest hAsked₁ rfl
        refine ⟨i, hAsked', ?_⟩
        rw [Invocation.hushed_hushed]
        congr 1
        · simp only [List.any_append, List.any_cons, Bool.or_assoc]
          rw [Bool.or_comm (behind.any _)]
        · simp only [List.contains_eq_any_beq, List.any_append, List.any_cons, Bool.or_assoc]
          rw [Bool.or_comm (behind.any _), Bool.beq_comm]

theorem Given.crosses_concat (hNone : inner.has name = false) :
    Given.Crosses (inner ++ [(name, v)]) inner name :=
  ⟨inner, [], v, rfl, by simp, hNone⟩

/-- A word for telling nothing may stand in front of all others. -/
theorem asked_quiet {word : String} {args : List String} {i : Invocation} (hMem : word ∈ quietWords)
    (hAsked : asked args = .run i) (hQuiet : i.quiet = false) (hDebug : i.debug = false) :
    asked (word :: args) = .run (i.hushed true false) := by
  rw [asked_eq_run, readInvocation_eq_ok] at hAsked
  obtain ⟨outer, command, rest, inner, out, hOut, hHelp, hIn, hOutside, hInside, rfl⟩ := hAsked
  obtain ⟨hNew, -⟩ : outer.has "quiet" = false ∧ _ := Bool.or_eq_false_iff.mp hQuiet
  obtain ⟨hCalm, -⟩ : outer.has "debug" = false ∧ _ := Bool.or_eq_false_iff.mp hDebug
  have crosses : Given.Crosses (outer ++ [("quiet", "")]) outer "quiet" :=
    Given.crosses_concat hNew
  have hCommand : word ∉ commandNames := fun hName =>
    absurd (canBeValue_commandNames word hName) (by simp [canBeValue_hushWords word (.tail _ hMem)])
  have hOutside' : excluded (outer ++ [("quiet", "")]) = false := by
    simpa [excluded, crosses.has, hNew, hCalm] using hOutside
  rw [← invocationOf_quiet_outer crosses]
  exact asked_of_reads (readOptions_inserted hCommand (dashes_hushWords word (.tail _ hMem))
    (readWord_quiet_outer hMem) hOut hNew (Nat.lt_succ_self _)) hHelp hIn hOutside' hInside

/-- The word against the summary may stand at once behind the command. -/
theorem asked_summary {args : List String} {i : Invocation} {o : FilterOptions}
    (hAsked : asked args = .run i) (hFilter : i.command = .filter o) (hSummary : o.noSummary = false) :
    ∃ before behind, args = before ++ "filter" :: behind ∧
      asked (before ++ "filter" :: "--no-summary" :: behind) = .run (i.hushed false true) := by
  rw [asked_eq_run, readInvocation_eq_ok] at hAsked
  obtain ⟨outer, command, rest, inner, out, hOut, hHelp, hIn, hOutside, hInside, rfl⟩ := hAsked
  obtain rfl := eq_filter_of_commandOf hFilter
  obtain ⟨before, rfl, -, hStop⟩ := readOptions_stop hOut
  have hNew : inner.has "no-summary" = false := by
    obtain rfl := Command.filter.inj hFilter
    exact hSummary
  have crosses : Given.Crosses (inner ++ [("no-summary", "")]) inner "no-summary" :=
    Given.crosses_concat hNew
  have hInside' : excluded (inner ++ [("no-summary", "")]) = false := by
    simpa [excluded, crosses.has] using hInside
  refine ⟨before, rest, rfl, ?_⟩
  rw [← invocationOf_summary crosses]
  exact asked_of_reads (hStop _ _ (Nat.lt_succ_self _)) hHelp (readOptions_inserted
    List.not_mem_nil (by decide) readWord_summary hIn hNew (Nat.lt_succ_self _)) hOutside hInside'

end Crossing

/-- Engines that are alike come to the same report, and log the same on the way. -/
theorem Engine.Alike.scan {e e' : Engine} (alike : e.Alike e') (text : String)
    (profile : ProfileId) : (e'.scan text profile).1 = (e.scan text profile).1 ∧
      (e'.scan text profile).2.1.log = (e.scan text profile).2.1.log := by
  obtain ⟨hOutcome, hLog⟩ := alike.expurgate profile text false
  exact ⟨congrArg (ScanReport.ofOutcome profile) hOutcome, hLog⟩

def Command.seed : Command → Option Nat
  | .filter o => o.seed
  | _ => none

section Runs

variable {w : World} {t : Theme} {o : FilterOptions} {quiet quiet' noSummary : Bool} {c : Config}
  {seed : Option Nat} {profile : ProfileId} {e e' : Engine} {warnings warnings' : String}
  {draws : List Nat → Nat}

/-- What a run leaves behind, without its messages. -/
def RunResult.silenced (r : RunResult) : RunResult := { r with stderr := "" }

/-- What was written by one of two that wrote the same is the same. -/
theorem silenced_getD {died died' : Option Written} {r r' : Written}
    (hDied : died'.map Written.silenced = died.map Written.silenced)
    (hElse : r'.silenced = r.silenced) : (died'.getD r').silenced = (died.getD r).silenced := by
  cases died with
  | none =>
      rw [Option.map_eq_none_iff.mp hDied]
      exact hElse
  | some left =>
      obtain ⟨left', hLeft, hSame⟩ := Option.map_eq_some_iff.mp hDied
      rw [hLeft]
      exact hSame

/-- Line by line, a request for less prints and logs what the other one does, if their engines are
alike. -/
theorem silenced_runStream (alike : e.Alike e') :
    (runStream (w.again draws w.stdoutTerminal) t (o.telling noSummary seed) quiet' profile warnings'
      e').silenced = (runStream w t o quiet profile warnings e).silenced := by
  unfold runStream
  rw [World.stdin_again]
  simp only [Written.silenced, alike.stream]

/-- On a whole input too. It fails for the same causes, and what it saves is the same. -/
theorem silenced_runWhole (alike : e.Alike e') :
    (runWhole (w.again draws w.stdoutTerminal) t (o.telling noSummary seed) quiet' profile warnings'
      e').silenced = (runWhole w t o quiet profile warnings e).silenced := by
  unfold runWhole
  rw [show (o.telling noSummary seed).inputFile = o.inputFile from rfl,
    show (o.telling noSummary seed).outputFile = o.outputFile from rfl,
    World.input_again, World.files_again]
  cases w.input o.inputFile with
  | error error => rfl
  | ok text =>
      obtain ⟨hOutcome, hLog⟩ := alike.expurgate profile text true
      dsimp only
      rw [hOutcome, hLog]
      cases o.outputFile with
      | none => rfl
      | some path =>
          rw [World.folder_again]
          cases hTarget : w.files.target w.folder path <;> simp only [hTarget] <;> rfl

theorem sameTask_telling (o : FilterOptions) (noSummary : Bool) (seed : Option Nat) :
    o.SameTask (o.telling noSummary seed) := ⟨rfl, rfl, rfl, rfl⟩

/-- A request for less begins with an engine that is alike, since it differs in the warnings only,
and so it goes on in the same way. -/
theorem silenced_runFilter
    (hChoice : (w.again draws w.stdoutTerminal).selector seed = w.selector o.seed ∨
      w.Settles (.filter o)) :
    (runFilter (w.again draws w.stdoutTerminal) t quiet' (o.telling noSummary seed)).silenced =
      (runFilter w t quiet o).silenced := by
  rcases runFilter_cases w t o with ⟨error, hFailed, -⟩ | ⟨c, p, hConfig, hProfile⟩
  · rw [hFailed w o quiet rfl rfl,
      hFailed (w.again draws w.stdoutTerminal) (o.telling noSummary seed) quiet' rfl rfl]
  · have alike : (o.engine w c).Alike
        ((o.telling noSummary seed).engine (w.again draws w.stdoutTerminal) c) :=
      alike_engine (sameTask_telling o noSummary seed) (hChoice.imp_right (· c hConfig))
    have hBegun := alike.begun t w.stderrTerminal p quiet quiet'
    cases hBuffered : o.lineBuffered with
    | false =>
        have hTold : runFilter (w.again draws w.stdoutTerminal) t quiet' (o.telling noSummary seed) =
            _ := runFilter_whole hConfig hProfile hBuffered
        rw [runFilter_whole hConfig hProfile hBuffered, hTold]
        exact silenced_runWhole hBegun
    | true =>
        have hTold : runFilter (w.again draws w.stdoutTerminal) t quiet' (o.telling noSummary seed) =
            _ := runFilter_stream hConfig hProfile hBuffered
        rw [runFilter_stream hConfig hProfile hBuffered, hTold]
        exact silenced_runStream hBegun

section Scan

variable {o : ScanOptions} (hChoice : draws = w.draws ∨ w.Settles (.scan o))

include hChoice

/-- A scan has no seed, so that two of them choose alike only if the same is drawn, or if there is
nothing to choose. -/
theorem alike_scan (hConfig : w.config o.source.config = .ok c) :
    (Engine.new c (w.selector none)).Alike
      (Engine.new c ((w.again draws w.stdoutTerminal).selector none)) := by
  refine .new c (hChoice.imp (fun hDraws => ?_) (· c hConfig))
  rw [World.selector, World.selector, World.again, hDraws]

/-- Scans die alike: a mask is asked for where there is a match, whatever is told of it. -/
theorem silenced_scanDeath :
    ((w.again draws w.stdoutTerminal).death? t quiet' (.scan o)).map Written.silenced =
      (w.death? t quiet (.scan o)).map Written.silenced := by
  unfold World.death?
  dsimp only
  rw [World.config_again]
  cases hConfig : w.config o.source.config with
  | error error => rfl
  | ok c =>
      cases requestedProfile o.source.profile with
      | error error => rfl
      | ok profile =>
          have hBegun := (alike_scan hChoice hConfig).begun t w.stderrTerminal profile
            (quiet || o.json) (quiet' || o.json)
          have hOverfills :
              (Engine.new c ((w.again draws w.stdoutTerminal).selector none)).Overfills
                (w.again draws w.stdoutTerminal).room ↔
              (Engine.new c (w.selector none)).Overfills w.room := Iff.rfl
          dsimp only
          rw [if_congr hOverfills rfl rfl]
          split
          · exact silenced_wholeDeath? hBegun o.inputFile
          · rfl

/-- The report of a scan does not depend on what is told besides. -/
theorem silenced_runScan :
    (runScan (w.again draws w.stdoutTerminal) t quiet' o).silenced =
      (runScan w t quiet o).silenced := by
  unfold runScan
  rw [World.config_again, World.input_again]
  cases hConfig : w.config o.source.config with
  | error error => rfl
  | ok c =>
      cases requestedProfile o.source.profile with
      | error error => rfl
      | ok p =>
          have alike := (alike_scan hChoice hConfig).begun t w.stderrTerminal p (quiet || o.json)
            (quiet' || o.json)
          dsimp only
          cases w.input o.inputFile with
          | error error => rfl
          | ok text =>
              obtain ⟨hReport, hLog⟩ := alike.scan text p
              dsimp only [Written.silenced]
              rw [World.stderrTerminal_again, hReport, hLog]

end Scan

/-- Less is told, and all else is done as before. -/
theorem silenced_command (t : Theme) (quiet quiet' noSummary : Bool) {i : Invocation}
    (hChoice : (w.again draws w.stdoutTerminal).selector (i.reseeded seed).command.seed =
      w.selector i.command.seed ∨ w.Settles i.command) :
    let command := ((i.hushed quiet noSummary).reseeded seed).command
    let w' := w.again draws w.stdoutTerminal
    ((w'.death? t quiet' command).getD (runCommand w' t quiet' command)).silenced =
      ((w.death? t i.quiet i.command).getD (runCommand w t i.quiet i.command)).silenced := by
  obtain ⟨_, _, _, command⟩ := i
  cases command with
  | filter o =>
      exact silenced_getD (silenced_death (sameTask_telling o _ seed) hChoice)
        (silenced_runFilter hChoice)
  | scan o =>
      have hDraws : draws = w.draws ∨ w.Settles (.scan o) :=
        hChoice.imp_left fun hSame => (Selector.drawn.inj hSame).1
      exact silenced_getD (silenced_scanDeath hDraws) (silenced_runScan hDraws)
  | terms source => rfl

/-- Where nothing is logged, a run leaves what its command wrote. -/
theorem silenced_themed {i : Invocation}
    (hTheme : Theme.load w.files w.folder i.themeFile = .ok t) (hDebug : i.debug = false) :
    let r := (w.death? t i.quiet i.command).getD (runCommand w t i.quiet i.command)
    (runInvocation w i).silenced =
      ⟨(r.error.map RunError.code).getD 0, r.stdout, "", [], r.saved⟩ := by
  simp only [runInvocation, RunResult.silenced, hTheme, hDebug]
  cases w.death? t i.quiet i.command <;> rfl

/-- Without a theme nothing is done, whatever the command is. -/
theorem silenced_unthemed {i : Invocation} {fault : Theme.Fault}
    (hTheme : Theme.load w.files w.folder i.themeFile = .error fault) :
    (runInvocation w i).silenced = ⟨1, "", "", [], none⟩ := by
  simp [runInvocation, RunResult.silenced, Written.failed, hTheme, RunError.code]

/-- Apart from its messages a request for less leaves what the other one does. Logging is left out,
as it is not what these words are about. -/
theorem silenced_runInvocation {i : Invocation} (hDebug : i.debug = false)
    (hChoice : (w.again draws w.stdoutTerminal).selector (i.reseeded seed).command.seed =
      w.selector i.command.seed ∨ w.Settles i.command) :
    (runInvocation (w.again draws w.stdoutTerminal)
        ((i.hushed quiet noSummary).reseeded seed)).silenced = (runInvocation w i).silenced := by
  cases hTheme : Theme.load w.files w.folder i.themeFile with
  | error fault =>
      rw [silenced_unthemed hTheme]
      exact silenced_unthemed hTheme
  | ok t =>
      have hSame := silenced_command t quiet (i.quiet || quiet) noSummary hChoice
      obtain ⟨hStdout, -, -, hSaved, hError⟩ := Written.mk.inj hSame
      rw [silenced_themed hTheme hDebug, ← hStdout, ← hSaved, ← hError]
      exact silenced_themed (w := w.again draws w.stdoutTerminal) hTheme hDebug

/-- The words for telling less change what is told, and nothing else. They are read wherever they
stand, if the command line can be read at all; there are places where they can; and however a request
for less is written, its run prints, saves and answers the same. This run may have another seed or
draw otherwise, if it makes the same choices or nothing is left to choose. -/
theorem run_silenced (w : World) {args : List String} {i : Invocation}
    (hAsked : asked args = .run i) (hPlain : i.Plain) :
    (∀ args' i', args'.filter (!hushWords.contains ·) = args → asked args' = .run i' →
      i' = i.hushed (args'.any quietWords.contains) (args'.contains "--no-summary")) ∧
    (∀ word ∈ quietWords, asked (word :: args) = .run (i.hushed true false)) ∧
    (∀ o, i.command = .filter o → ∃ before behind, args = before ++ "filter" :: behind ∧
      asked (before ++ "filter" :: "--no-summary" :: behind) = .run (i.hushed false true) ∧
      ∀ word ∈ quietWords, asked (word :: (before ++ "filter" :: "--no-summary" :: behind)) =
        .run (i.hushed true true)) ∧
    ∀ args' quiet noSummary seed draws,
      asked args' = .run ((i.hushed quiet noSummary).reseeded seed) →
      ((w.again draws w.stdoutTerminal).selector (i.reseeded seed).command.seed =
        w.selector i.command.seed ∨ w.Settles i.command) →
      let told := run (w.again draws w.stdoutTerminal) args'
      told.silenced = (run w args).silenced ∧ told.files w.files = (run w args).files w.files := by
  refine ⟨fun args' i' hWords hAsked' => ?_, fun word hMem => ?_, fun o hFilter => ?_,
    fun args' quiet noSummary seed draws hAsked' hChoice => ?_⟩
  · obtain ⟨i₁, hSame, rfl⟩ := asked_hushed hWords hAsked'
    obtain rfl := Asked.run.inj (hAsked.symm.trans hSame)
    rfl
  · exact asked_quiet hMem hAsked hPlain.quiet hPlain.debug
  · obtain ⟨before, behind, hArgs, hSummary⟩ :=
      asked_summary hAsked hFilter (hPlain.summary o hFilter)
    refine ⟨before, behind, hArgs, hSummary, fun word hMem => ?_⟩
    have hLoud : (i.hushed false true).quiet = false := by simp [Invocation.hushed, hPlain.quiet]
    rw [asked_quiet hMem hSummary hLoud hPlain.debug, Invocation.hushed_hushed]
    rfl
  · intro told
    have hSame : told.silenced = (run w args).silenced := by
      rw [show told = run (w.again draws w.stdoutTerminal) args' from rfl, run, run, hAsked, hAsked']
      exact silenced_runInvocation hPlain.debug hChoice
    obtain ⟨-, -, -, -, hSaved⟩ := RunResult.mk.inj hSame
    exact ⟨hSame, by rw [RunResult.files, RunResult.files, hSaved]⟩

/-- Both words at once, with a word of the built-in configuration to be summarized. -/
theorem run_silenced_builtIn :
    let w := World.plain (utf8 "damn one\n".toList) ⟨[], []⟩
    let o : FilterOptions := ⟨⟨none, none⟩, none, none, none, none, false, false, false⟩
    let i : Invocation := ⟨false, false, none, .filter o⟩
    asked ["filter"] = .run i ∧ i.Plain ∧
      asked ["filter", "-q", "--seed", "7", "--no-summary"] =
        .run ((i.hushed true true).reseeded (some 7)) ∧
      (run (w.again (fun _ => 1) false) ["filter", "-q", "--seed", "7", "--no-summary"]).silenced =
        (run w ["filter"]).silenced := by
  intro w o i
  have hAsked : asked ["filter"] = .run i := by decide
  have hPlain : i.Plain := by
    refine ⟨rfl, rfl, fun o' hSame => ?_⟩
    obtain rfl := Command.filter.inj hSame
    rfl
  have hAsked' : asked ["filter", "-q", "--seed", "7", "--no-summary"] =
      .run ((i.hushed true true).reseeded (some 7)) := by decide
  have hSettled : w.Settles i.command := by
    intro c hConfig
    obtain rfl := Except.ok.inj ((World.config_builtIn rfl).symm.trans hConfig)
    exact fun hMethod => nomatch hMethod
  obtain ⟨-, -, -, hRun⟩ := run_silenced w hAsked hPlain
  exact ⟨hAsked, hPlain, hAsked',
    (hRun _ true true (some 7) (fun _ => 1) hAsked' (.inr hSettled)).1⟩

end Runs

end Expurgate
