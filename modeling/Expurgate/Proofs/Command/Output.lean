import Expurgate.Proofs.Command.Filter
import Expurgate.Proofs.Command.OutputOption
import Expurgate.Proofs.Config.Merge
import Expurgate.Proofs.Files

/-! Where the output of an expurgation goes. With a file to write to, this file holds what would
have been printed, unless lines are expurgated as they come: then the file is not looked at. -/
namespace Expurgate

variable {w : World} {t : Theme} {o o' : FilterOptions} {quiet quiet' : Bool} {profile : ProfileId}
  {e e' : Engine} {c : Config} {warnings warnings' path : String} {seed : Option Nat}
  {draws : List Nat → Nat} {terminal : Bool}

/-- The same world found once more. A generator without a seed draws anew, and what is printed may go
elsewhere. -/
def World.again (w : World) (draws : List Nat → Nat) (terminal : Bool) : World :=
  { w with draws := draws, stdoutTerminal := terminal }

section Fields

variable (w : World) (draws : List Nat → Nat) (terminal : Bool)

@[simp]
theorem World.config_again : (w.again draws terminal).config = w.config := rfl

@[simp]
theorem World.input_again : (w.again draws terminal).input = w.input := rfl

@[simp]
theorem World.stdin_again : (w.again draws terminal).stdin = w.stdin := rfl

@[simp]
theorem World.files_again : (w.again draws terminal).files = w.files := rfl

@[simp]
theorem World.folder_again : (w.again draws terminal).folder = w.folder := rfl

@[simp]
theorem World.stderrTerminal_again :
    (w.again draws terminal).stderrTerminal = w.stderrTerminal := rfl

end Fields

/-- Nothing is left to choose for a command. -/
def World.Settles (w : World) : Command → Prop
  | .filter o => ∀ c, w.config o.source.config = .ok c → (o.applied c).Settled
  | .scan o => ∀ c, w.config o.source.config = .ok c → c.Settled
  | .terms _ => True

/-- What a command wrote, without its messages. -/
def Written.silenced (r : Written) : Written := { r with stderr := "" }

section Deaths

/-- Engines that are alike die of the same texts. -/
theorem silenced_wholeDeath? (alike : e.Alike e') (inputFile : Option String) :
    ((w.again draws terminal).wholeDeath? inputFile profile warnings' e').map Written.silenced =
      (w.wholeDeath? inputFile profile warnings e).map Written.silenced := by
  unfold World.wholeDeath?
  rw [World.input_again]
  cases w.input inputFile with
  | error error => rfl
  | ok text =>
      dsimp only
      rw [alike.untilMask? profile text, alike.config, Option.map_map, Option.map_map]
      rfl

/-- Line by line they die at the same line. What was printed by then is the same, and so is what was
logged. -/
theorem silenced_streamDeath? (alike : e.Alike e') :
    ((w.again draws terminal).streamDeath? profile warnings' e').map Written.silenced =
      (w.streamDeath? profile warnings e).map Written.silenced := by
  unfold World.streamDeath?
  rw [World.stdin_again, alike.untilMaskedLine? profile, alike.config, Option.map_map,
    Option.map_map]
  refine congrArg (Option.map · _) (funext fun (lines, log) => ?_)
  simp only [Function.comp_apply, alike.stream profile lines, Written.silenced]

end Deaths

/-- The requests are the same as to what is expurgated, and how. -/
structure FilterOptions.SameTask (o o' : FilterOptions) : Prop where
  source : o'.source = o.source
  input : o'.inputFile = o.inputFile
  method : o'.method = o.method
  buffered : o'.lineBuffered = o.lineBuffered

section Task

variable (same : o.SameTask o')

include same

/-- The method is all that a request changes about the configuration. -/
theorem applied_eq (c : Config) : o'.applied c = o.applied c := by
  rw [FilterOptions.applied, FilterOptions.applied, same.method]

/-- Where the same one chooses, or nothing is left to choose, such requests begin alike. -/
theorem alike_engine
    (hChoice : (w.again draws terminal).selector o'.seed = w.selector o.seed ∨
      (o.applied c).Settled) :
    (o.engine w c).Alike (o'.engine (w.again draws terminal) c) := by
  rw [FilterOptions.engine, FilterOptions.engine, applied_eq same]
  exact .new _ hChoice

/-- They die alike. -/
theorem silenced_death
    (hChoice : (w.again draws terminal).selector o'.seed = w.selector o.seed ∨
      w.Settles (.filter o)) :
    ((w.again draws terminal).death? t quiet' (.filter o')).map Written.silenced =
      (w.death? t quiet (.filter o)).map Written.silenced := by
  unfold World.death?
  dsimp only
  rw [World.config_again, same.source, same.buffered, same.input]
  cases hConfig : w.config o.source.config with
  | error error => rfl
  | ok c =>
      cases requestedProfile o.source.profile with
      | error error => rfl
      | ok profile =>
          have alike := alike_engine same (hChoice.imp_right (· c hConfig))
          have hBegun := alike.begun t w.stderrTerminal profile quiet quiet'
          have hOverfills : (o'.engine (w.again draws terminal) c).Overfills
              (w.again draws terminal).room ↔ (o.engine w c).Overfills w.room := by
            rw [Engine.Overfills, alike.config]
            rfl
          dsimp only
          rw [if_congr hOverfills rfl rfl]
          split
          · cases o.lineBuffered with
            | false => exact silenced_wholeDeath? hBegun o.inputFile
            | true => exact silenced_streamDeath? hBegun
          · rfl

end Task

section Printing

/-- A change does not depend on colours unless it is shown as a difference. -/
theorem primaryOutput_colours {colours showDiff : Bool} (hPlain : showDiff = false ∨ colours = false)
    (outcome : Outcome) :
    primaryOutput t colours showDiff outcome = primaryOutput t false showDiff outcome := by
  rcases hPlain with rfl | rfl <;> rfl

/-- What goes to a file is what would have been printed, and in a file there are no colours. -/
theorem runWhole_printing (hOutput : o.outputFile = some path) (alike : e.Alike e')
    (hSucceeded : (runWhole w t o quiet profile warnings e).error = none) :
    let written := runWhole w t o quiet profile warnings e
    let printed := runWhole (w.again draws terminal) t (o.printing seed) quiet profile warnings e'
    printed.error = none ∧ written.stdout = "" ∧ ∃ l, w.files.target w.folder path = .ok l ∧
      ∃ text, written.saved = some (l, text) ∧
        (o.showDiff = false ∨ terminal = false → text = printed.stdout) := by
  intro written printed
  obtain ⟨⟨text, hInput⟩, hTarget⟩ := error_runWhole.mp hSucceeded
  obtain ⟨l, hPlace⟩ := hTarget path hOutput
  have hPrinted : printed =
      runWhole (w.again draws terminal) t (o.printing seed) quiet profile warnings e' := rfl
  have hWritten : written = runWhole w t o quiet profile warnings e := rfl
  have hInput' : (w.again draws terminal).input (o.printing seed).inputFile = .ok text := hInput
  rw [runWhole, hInput'] at hPrinted
  rw [runWhole, hInput] at hWritten
  simp only [hOutput, hPlace] at hWritten
  rw [hPrinted, hWritten]
  refine ⟨rfl, rfl, l, hPlace, _, rfl, fun hPlain => ?_⟩
  dsimp only [FilterOptions.printing, World.again]
  rw [(alike.expurgate profile text true).1, primaryOutput_colours hPlain]

/-- Lines are printed as they come, and no file is written. -/
theorem runStream_printing (alike : e.Alike e') :
    runStream (w.again draws terminal) t (o.printing seed) quiet profile warnings e' =
      runStream w t o quiet profile warnings e := by
  unfold runStream
  rw [World.stdin_again]
  dsimp only
  rw [alike.stream]
  rfl

end Printing

/-- To print instead of writing to a file changes nothing about what is expurgated. -/
theorem sameTask_printing (o : FilterOptions) (seed : Option Nat) : o.SameTask (o.printing seed) :=
  ⟨rfl, rfl, rfl, rfl⟩

section Filter

variable (hChoice : (w.again draws terminal).selector seed = w.selector o.seed ∨
  w.Settles (.filter o))

include hChoice

/-- Where nothing is left to choose, or the same one chooses, the file of a request has what is
printed by the one without it. Of a difference this holds if there are no colours in what is
printed. -/
theorem runFilter_printing (hWhole : o.lineBuffered = false) (hOutput : o.outputFile = some path)
    (hSucceeded : (runFilter w t quiet o).error = none) :
    let written := runFilter w t quiet o
    let printed := runFilter (w.again draws terminal) t quiet (o.printing seed)
    printed.error = none ∧ written.stdout = "" ∧ ∃ l, w.files.target w.folder path = .ok l ∧
      ∃ text, written.saved = some (l, text) ∧
        (o.showDiff = false ∨ terminal = false → text = printed.stdout) := by
  rcases runFilter_cases w t o with ⟨error, hFailed, -⟩ | ⟨c, p, hConfig, hProfile⟩
  · rw [hFailed w o quiet rfl rfl] at hSucceeded
    cases hSucceeded
  · have alike : (o.engine w c).Alike ((o.printing seed).engine (w.again draws terminal) c) :=
      alike_engine (sameTask_printing o seed) (hChoice.imp_right (· c hConfig))
    have hPrinted : runFilter (w.again draws terminal) t quiet (o.printing seed) = _ :=
      runFilter_whole hConfig hProfile hWhole
    rw [runFilter_whole hConfig hProfile hWhole] at hSucceeded ⊢
    rw [hPrinted]
    dsimp only
    rw [alike.warnings]
    exact runWhole_printing hOutput (alike.begun t w.stderrTerminal p quiet quiet) hSucceeded

/-- Where lines are expurgated as they come, the file that is asked for is never looked at. -/
theorem runFilter_buffered (hBuffered : o.lineBuffered = true) :
    runFilter (w.again draws terminal) t quiet (o.printing seed) = runFilter w t quiet o ∧
      (runFilter w t quiet o).saved = none := by
  rcases runFilter_cases w t o with ⟨error, hFailed, -⟩ | ⟨c, p, hConfig, hProfile⟩
  · rw [hFailed w o quiet rfl rfl, hFailed (w.again draws terminal) (o.printing seed) quiet rfl rfl]
    exact ⟨rfl, rfl⟩
  · have alike : (o.engine w c).Alike ((o.printing seed).engine (w.again draws terminal) c) :=
      alike_engine (sameTask_printing o seed) (hChoice.imp_right (· c hConfig))
    have hPrinted : runFilter (w.again draws terminal) t quiet (o.printing seed) = _ :=
      runFilter_stream hConfig hProfile hBuffered
    rw [runFilter_stream hConfig hProfile hBuffered, hPrinted, alike.warnings]
    exact ⟨runStream_printing (alike.begun t w.stderrTerminal p quiet quiet), rfl⟩

end Filter

/-- Without a file with a configuration, the built-in one holds. -/
theorem World.config_builtIn {named : Option String} (hNone : w.configPath named = none) :
    w.config named = .ok Config.builtIn := by
  rw [World.config, World.userConfig, hNone]
  simp only [bind, Except.bind, Config.mergeOption, Config.validate_builtIn]
  rfl

section Run

variable {i : Invocation} {args args' : List String}

/-- A run that succeeds has not died, and its command has not failed. -/
theorem runInvocation_succeeded (hFilter : i.command = .filter o)
    (hTheme : Theme.load w.files w.folder i.themeFile = .ok t)
    (hCode : (runInvocation w i).code = 0) :
    w.death? t i.quiet (.filter o) = none ∧ (runFilter w t i.quiet o).error = none ∧
      (runInvocation w i).stdout = (runFilter w t i.quiet o).stdout ∧
      (runInvocation w i).saved = (runFilter w t i.quiet o).saved := by
  obtain ⟨hZero, hStdout, hSaved⟩ := runInvocation_themed hTheme
  rw [hFilter] at hZero hStdout hSaved
  cases hDeath : w.death? t i.quiet (.filter o) with
  | none =>
      rw [hDeath] at hZero hStdout hSaved
      exact ⟨rfl, hZero.mp hCode, hStdout, hSaved⟩
  | some r =>
      rw [hDeath] at hZero
      exact absurd (hZero.mp hCode) (error_death hDeath)

section Again

variable (hFilter : i.command = .filter o) (hCode : (runInvocation w i).code = 0)
  (hChoice : (w.again draws terminal).selector seed = w.selector o.seed ∨ w.Settles (.filter o))

include hFilter hCode hChoice

/-- Where a run succeeds, the request that prints does not die. -/
theorem death?_printing (hTheme : Theme.load w.files w.folder i.themeFile = .ok t) :
    (w.again draws terminal).death? t i.quiet (.filter (o.printing seed)) = none := by
  obtain ⟨hAlive, -⟩ := runInvocation_succeeded hFilter hTheme hCode
  have hDeaths : ((w.again draws terminal).death? t i.quiet (.filter (o.printing seed))).map
      Written.silenced = (w.death? t i.quiet (.filter o)).map Written.silenced :=
    silenced_death (sameTask_printing o seed) hChoice
  rw [hAlive] at hDeaths
  exact Option.map_eq_none_iff.mp hDeaths

/-- The same with the theme loaded and the exit code told: a request that succeeds puts into its
file what it would have printed. -/
theorem runInvocation_printing (hOutput : o.outputFile = some path)
    (hWhole : o.lineBuffered = false) :
    let written := runInvocation w i
    let printed :=
      runInvocation (w.again draws terminal) { i with command := .filter (o.printing seed) }
    printed.code = 0 ∧ written.stdout = "" ∧ (o.showDiff = false ∨ terminal = false →
      (written.files w.files).read w.folder path = .ok printed.stdout) := by
  intro written printed
  cases hTheme : Theme.load w.files w.folder i.themeFile with
  | error fault =>
      rw [(runInvocation_unthemed hTheme).1] at hCode
      cases hCode
  | ok t =>
      obtain ⟨-, hError, hStdout, hSaved⟩ := runInvocation_succeeded hFilter hTheme hCode
      obtain ⟨hZero', hStdout', -⟩ := runInvocation_themed (w := w.again draws terminal)
        (i := { i with command := .filter (o.printing seed) }) hTheme
      dsimp only at hZero' hStdout'
      rw [death?_printing hFilter hCode hChoice hTheme] at hZero' hStdout'
      obtain ⟨hPrinted, hNothing, l, hTarget, text, hPut, hSame⟩ :=
        runFilter_printing hChoice hWhole hOutput hError
      refine ⟨hZero'.mpr hPrinted, hStdout.trans hNothing, fun hPlain => ?_⟩
      have hText : printed.stdout = text := hStdout'.trans (hSame hPlain).symm
      rw [RunResult.files, hSaved.trans hPut, hText]
      exact FileTree.read_put hTarget

/-- Line by line the two runs are the same in all that they leave, messages and exit code included.
-/
theorem runInvocation_buffered (hBuffered : o.lineBuffered = true) :
    runInvocation (w.again draws terminal) { i with command := .filter (o.printing seed) } =
        runInvocation w i ∧
      (runInvocation w i).saved = none := by
  cases hTheme : Theme.load w.files w.folder i.themeFile with
  | error fault =>
      rw [(runInvocation_unthemed hTheme).1] at hCode
      cases hCode
  | ok t =>
      obtain ⟨hAlive, -, -, hSaved⟩ := runInvocation_succeeded hFilter hTheme hCode
      have hAlive' := death?_printing hFilter hCode hChoice hTheme
      obtain ⟨hSame, hNone⟩ : runFilter (w.again draws terminal) t i.quiet (o.printing seed) =
          runFilter w t i.quiet o ∧ (runFilter w t i.quiet o).saved = none :=
        runFilter_buffered hChoice hBuffered
      have hTheme' : Theme.load (w.again draws terminal).files (w.again draws terminal).folder
          i.themeFile = .ok t := hTheme
      refine ⟨?_, hSaved.trans hNone⟩
      simp only [runInvocation, hTheme, hTheme', hFilter, hAlive, hAlive', runCommand, hSame]
      rfl

end Again

/-- A request that succeeds writes to its file what it would have printed, and prints nothing. What it
would have printed is taken from a run of its own, in which a generator may draw otherwise if nothing
is left to choose; and of a difference it is what goes elsewhere than to a terminal, for which it
would be coloured. Only where lines are expurgated as they come, it prints them and there is no file,
just as if none had been asked for. However the option for the file is written, the request without it
is the command line without these words. -/
theorem run_output (w : World) (draws : List Nat → Nat) (terminal : Bool)
    (hAsked : asked args = .run i) (hFilter : i.command = .filter o)
    (hOutput : o.outputFile = some path)
    (hPrinting : asked args' = .run { i with command := .filter (o.printing seed) })
    (hChoice : (w.again draws terminal).selector seed = w.selector o.seed ∨ w.Settles (.filter o))
    (hCode : (run w args).code = 0) :
    let printed := run (w.again draws terminal) args'
    (∀ name ≠ "", ∀ words ∈ outputSpellings name, ∀ before behind,
      args = before ++ words.1 :: (words.2 ++ behind) →
      asked (before ++ behind) = .run { i with command := .filter (o.printing o.seed) }) ∧
    (o.lineBuffered = false → printed.code = 0 ∧ (run w args).stdout = "" ∧
      (o.showDiff = false ∨ terminal = false →
        ((run w args).files w.files).read w.folder path = .ok printed.stdout)) ∧
    (o.lineBuffered = true → run w args = printed ∧ (run w args).files w.files = w.files) := by
  intro printed
  have hRun : run w args = runInvocation w i := by rw [run, hAsked]
  have hPrinted : printed =
      runInvocation (w.again draws terminal) { i with command := .filter (o.printing seed) } := by
    rw [show printed = run (w.again draws terminal) args' from rfl, run, hPrinting]
  rw [hRun] at hCode ⊢
  rw [hPrinted]
  refine ⟨?_, fun hWhole => ?_, fun hBuffered => ?_⟩
  · rintro name hName words hMem before behind rfl
    obtain ⟨attached, spells, hMore⟩ := exists_spellsOutput hName words hMem
    exact asked_crossed spells hMore hAsked hFilter
  · exact runInvocation_printing hFilter hCode hChoice hOutput hWhole
  · obtain ⟨hSame, hSaved⟩ := runInvocation_buffered hFilter hCode hChoice hBuffered
    exact ⟨hSame.symm, by rw [RunResult.files, hSaved]⟩

/-- A line with a word of the built-in configuration, and a request under a seed that prints it to a
terminal. -/
theorem run_output_builtIn :
    let w := World.plain (utf8 "damn one\n".toList) ⟨[], []⟩
    let w' := w.again w.draws true
    let args := ["filter", "-o", "out.txt"]
    let args' := ["filter", "--seed", "7"]
    let o : FilterOptions := ⟨⟨none, none⟩, none, some "out.txt", none, none, false, false, false⟩
    asked args = .run ⟨false, false, none, .filter o⟩ ∧
      asked args' = .run ⟨false, false, none, .filter (o.printing (some 7))⟩ ∧
      w.Settles (.filter o) ∧ (run w args).code = 0 ∧ (run w args).stdout = "" ∧
      ((run w args).files w.files).read w.folder "out.txt" = .ok (run w' args').stdout := by
  intro w w' args args' o
  have hAsked : asked args = .run ⟨false, false, none, .filter o⟩ := by decide
  have hPrinting : asked args' = .run ⟨false, false, none, .filter (o.printing (some 7))⟩ := by
    decide
  have hConfig : w.config o.source.config = .ok Config.builtIn := World.config_builtIn rfl
  have hSettled : w.Settles (.filter o) := by
    intro c hSame
    obtain rfl := Except.ok.inj (hConfig.symm.trans hSame)
    exact fun hMethod => nomatch hMethod
  have hStdin : ∃ text, decodeText w.stdin = some text := ⟨_, decodeText_utf8 _⟩
  have provides : w.Provides none o := by
    refine ⟨⟨.default, rfl⟩, ⟨_, hConfig⟩, ⟨.all, rfl⟩, fun _ => ?_, fun _ path hPath => ?_⟩
    · obtain ⟨text, hText⟩ := hStdin
      refine ⟨text, ?_⟩
      simp only [World.input, o, hText]
    · obtain rfl := Option.some.inj hPath
      exact ⟨["out.txt"], by decide⟩
  have hRoom : ¬w.Exhausted o := by
    rintro ⟨c, profile, hSame, -, ⟨-, hLess⟩, -⟩
    obtain rfl := Except.ok.inj (hConfig.symm.trans hSame)
    exact absurd hLess (by decide)
  have hCode : (run w args).code = 0 := by
    rw [run, hAsked]
    exact (runInvocation_filter rfl hStdin).1.mpr ⟨provides, hRoom⟩
  obtain ⟨-, hWhole, -⟩ :=
    run_output w w.draws true hAsked rfl rfl hPrinting (.inr hSettled) hCode
  obtain ⟨-, hNothing, hSame⟩ := hWhole rfl
  exact ⟨hAsked, hPrinting, hSettled, hCode, hNothing, hSame (.inl rfl)⟩

end Run

end Expurgate
