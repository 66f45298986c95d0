import Expurgate.Proofs.Engine.Room

/-! What the command that expurgates needs, and what is left where it fails. Whatever is missing is
missed before the first output. Only the room for a mask is asked for when the mask is put in, and by
then the lines in front of it are printed if lines are expurgated as they come. -/
namespace Expurgate

variable {w : World} {t : Theme} {o : FilterOptions} {quiet : Bool} {profile : ProfileId}
  {e e' : Engine} {c : Config}

/-- What a request to expurgate rests on. What is to be read and written as a whole is of no account
where lines are expurgated as they come. -/
structure World.Provides (w : World) (themeFile : Option String) (o : FilterOptions) : Prop where
  theme : ∃ t, Theme.load w.files w.folder themeFile = .ok t
  config : ∃ c, w.config o.source.config = .ok c
  profile : ∃ p, requestedProfile o.source.profile = .ok p
  input : o.lineBuffered = false → ∃ text, w.input o.inputFile = .ok text
  output : o.lineBuffered = false →
    ∀ path ∈ o.outputFile, ∃ l, w.files.target w.folder path = .ok l

/-- The texts that a request expurgates, each by itself: the whole input, or the lines of the standard
input. -/
def World.Hands (w : World) (o : FilterOptions) (text : String) : Prop :=
  if o.lineBuffered then some text ∈ streamLines w.stdin else w.input o.inputFile = .ok text

/-- The request comes to a mask that there is no room for. -/
def World.Exhausted (w : World) (o : FilterOptions) : Prop :=
  ∃ c profile, w.config o.source.config = .ok c ∧ requestedProfile o.source.profile = .ok profile ∧
    (o.engine w c).Overfills w.room ∧ ∃ text, w.Hands o text ∧
      ((o.engine w c).expurgate text profile true).1.outcome.matched ≠ []

/-- The lines of the standard input in front of the first one that has a match. -/
def FilterOptions.leadingLines (o : FilterOptions) (w : World) (c : Config) (profile : ProfileId) :
    List String :=
  (readable (streamLines w.stdin)).takeWhile fun text =>
    ((o.engine w c).expurgate text profile true).1.outcome.matched.isEmpty

/-- Where a command failed, it wrote no output and no file. -/
structure Written.Traceless (r : Written) : Prop where
  stdout : r.error ≠ none → r.stdout = ""
  saved : r.error ≠ none → r.saved = none

/-- A command that failed before it came to its output has left nothing. -/
theorem Written.traceless_failed (stderr : String) (error : RunError) :
    (failed stderr error).Traceless := ⟨fun _ => rfl, fun _ => rfl⟩

/-- Of a command that did not fail nothing is asked. -/
theorem Written.traceless_of_succeeded {r : Written} (hError : r.error = none) : r.Traceless :=
  ⟨fun hFailed => absurd hError hFailed, fun hFailed => absurd hError hFailed⟩

/-- A stream all of whose lines are text is read to its end. -/
theorem Engine.fault_stream {lines : List (Option String)} (hLines : none ∉ lines) (e : Engine) :
    (Engine.stream profile lines e).1.fault = none := by
  induction lines generalizing e with
  | nil => rfl
  | cons first rest ih =>
      cases first with
      | none => simp at hLines
      | some text => exact ih (fun hMem => hLines (.tail _ hMem)) _

section Warned

variable {warnings : String}

/-- Lines that are text are expurgated to the end. -/
theorem error_runStream (hStdin : ∃ text, decodeText w.stdin = some text) :
    (runStream w t o quiet profile warnings e).error = none := by
  obtain ⟨text, hText⟩ := hStdin
  show (Engine.stream profile (streamLines w.stdin) e).1.fault.map RunError.line = none
  rw [Engine.fault_stream (none_not_mem_streamLines hText)]
  rfl

/-- Two things are needed for a whole input: that it can be read, and that there is a place for the
output if it goes to a file. -/
theorem error_runWhole :
    (runWhole w t o quiet profile warnings e).error = none ↔
      (∃ text, w.input o.inputFile = .ok text) ∧
        ∀ path ∈ o.outputFile, ∃ l, w.files.target w.folder path = .ok l := by
  unfold runWhole
  cases w.input o.inputFile with
  | error error => simp [Written.failed]
  | ok text =>
      cases o.outputFile with
      | none => simp
      | some path => cases hTarget : w.files.target w.folder path <;> simp [hTarget]

/-- The output is written last. -/
theorem traceless_runWhole : (runWhole w t o quiet profile warnings e).Traceless := by
  unfold runWhole
  cases w.input o.inputFile with
  | error error => exact Written.traceless_failed _ _
  | ok text =>
      cases o.outputFile with
      | none => exact Written.traceless_of_succeeded rfl
      | some path =>
          cases hTarget : w.files.target w.folder path with
          | ok l => simpa only [hTarget] using Written.traceless_of_succeeded rfl
          | error fault => exact ⟨fun _ => by simp only [hTarget], fun _ => by simp only [hTarget]⟩

end Warned

section Begun

variable (t : Theme) (colours : Bool) (profile : ProfileId)

/-- The warnings build a set at most. They change neither the configuration nor who chooses. -/
theorem Engine.Coherent.begun (hCoherent : e.Coherent) (still : Bool) :
    (e.begun t colours profile still).2.Coherent ∧
      (e.begun t colours profile still).2.config = e.config ∧
      (e.begun t colours profile still).2.selector = e.selector := by
  cases still with
  | true => exact ⟨hCoherent, rfl, rfl⟩
  | false =>
      exact ⟨hCoherent.termSet profile, e.config_termSet profile, e.selector_termSet profile⟩

/-- Engines that are alike stay so, whether they are to be still or to warn. -/
theorem Engine.Alike.begun (alike : e.Alike e') (still still' : Bool) :
    (e.begun t colours profile still).2.Alike (e'.begun t colours profile still').2 := by
  obtain ⟨hLeft, hConfig, hSelector⟩ := alike.left.begun t colours profile still
  obtain ⟨hRight, hConfig', hSelector'⟩ := alike.right.begun t colours profile still'
  refine ⟨hLeft, hRight, ?_, ?_⟩
  · rw [hConfig, hConfig', alike.config]
  · rw [hSelector, hSelector', hConfig]
    exact alike.choice

/-- They give the same warnings. -/
theorem Engine.Alike.warnings (alike : e.Alike e') (still : Bool) :
    (e'.begun t colours profile still).1 = (e.begun t colours profile still).1 := by
  cases still with
  | true => rfl
  | false =>
      simp only [Engine.begun, startWarnings, alike.config, alike.set_eq profile]
      rfl

/-- To give warnings changes nothing about how a new engine works. -/
theorem alike_begun (o : FilterOptions) (w : World) (c : Config) (still : Bool) :
    (o.engine w c).Alike ((o.engine w c).begun t colours profile still).2 :=
  (Engine.Alike.new (o.applied c) (.inl rfl)).begun t colours profile true still

end Begun

section Started

variable (hConfig : w.config o.source.config = .ok c)
  (hProfile : requestedProfile o.source.profile = .ok profile)

include hConfig hProfile

/-- Once configuration and profile are there, the input is expurgated as a whole. -/
theorem runFilter_whole (hWhole : o.lineBuffered = false) :
    runFilter w t quiet o = runWhole w t o quiet profile
      ((o.engine w c).begun t w.stderrTerminal profile quiet).1
      ((o.engine w c).begun t w.stderrTerminal profile quiet).2 := by
  unfold runFilter
  rw [hConfig, hProfile]
  dsimp only
  rw [hWhole]
  rfl

/-- Once configuration and profile are there, the input is expurgated line by line. -/
theorem runFilter_stream (hBuffered : o.lineBuffered = true) :
    runFilter w t quiet o = runStream w t o quiet profile
      ((o.engine w c).begun t w.stderrTerminal profile quiet).1
      ((o.engine w c).begun t w.stderrTerminal profile quiet).2 := by
  unfold runFilter
  rw [hConfig, hProfile]
  dsimp only
  rw [hBuffered]
  rfl

end Started

/-- A request fails at once where its configuration or its profile is of no use, and so does every
other one from the same source. -/
theorem runFilter_cases (w : World) (t : Theme) (o : FilterOptions) :
    (∃ error, (∀ (w' : World) (o' : FilterOptions) (quiet : Bool), w'.config = w.config →
        o'.source = o.source → runFilter w' t quiet o' = .failed "" error) ∧
      ¬((∃ c, w.config o.source.config = .ok c) ∧
        ∃ p, requestedProfile o.source.profile = .ok p)) ∨
    ∃ c p, w.config o.source.config = .ok c ∧ requestedProfile o.source.profile = .ok p := by
  cases hConfig : w.config o.source.config with
  | error error =>
      refine .inl ⟨error, fun w' o' quiet hWorld hSource => ?_, by simp⟩
      rw [runFilter, hWorld, hSource, hConfig]
  | ok c =>
      cases hProfile : requestedProfile o.source.profile with
      | error error =>
          refine .inl ⟨error, fun w' o' quiet hWorld hSource => ?_, by simp⟩
          rw [runFilter, hWorld, hSource, hConfig, hProfile]
      | ok p => exact .inr ⟨c, p, rfl, rfl⟩

/-- On an input that is text a request leaves nothing where it fails, whether the input is taken as
a whole or line by line. -/
theorem traceless_runFilter (hStdin : ∃ text, decodeText w.stdin = some text) :
    (runFilter w t quiet o).Traceless := by
  rcases runFilter_cases w t o with ⟨error, hFailed, -⟩ | ⟨c, p, hConfig, hProfile⟩
  · rw [hFailed w o quiet rfl rfl]
    exact Written.traceless_failed _ _
  · cases hBuffered : o.lineBuffered with
    | false =>
        rw [runFilter_whole hConfig hProfile hBuffered]
        exact traceless_runWhole
    | true =>
        rw [runFilter_stream hConfig hProfile hBuffered]
        exact Written.traceless_of_succeeded (error_runStream hStdin)

/-- A request for which there is room fails exactly where something is missing that it rests on. For
lines the input and the file to write to are of no account. -/
theorem error_runFilter (hStdin : ∃ text, decodeText w.stdin = some text) :
    (runFilter w t quiet o).error = none ↔
      (∃ c, w.config o.source.config = .ok c) ∧ (∃ p, requestedProfile o.source.profile = .ok p) ∧
      (o.lineBuffered = false → (∃ text, w.input o.inputFile = .ok text) ∧
        ∀ path ∈ o.outputFile, ∃ l, w.files.target w.folder path = .ok l) := by
  rcases runFilter_cases w t o with ⟨error, hFailed, hMissing⟩ | ⟨c, p, hConfig, hProfile⟩
  · rw [hFailed w o quiet rfl rfl]
    exact ⟨nofun, fun h => absurd ⟨h.1, h.2.1⟩ hMissing⟩
  · cases hBuffered : o.lineBuffered with
    | false => simp [runFilter_whole hConfig hProfile hBuffered, hConfig, hProfile, error_runWhole]
    | true =>
        simp [runFilter_stream hConfig hProfile hBuffered, hConfig, hProfile, error_runStream hStdin]

/-- What a request has left that died for want of room: the lines it had printed, and no file. -/
structure Written.Died (r : Written) (printed : List String) : Prop where
  error : ∃ bytes, r.error = some (.memory bytes)
  stdout : r.stdout.toList = printed.flatMap fun text => (line text).toList
  saved : r.saved = none

section Death

/-- A death is always told of as a failure, so it cannot be taken for a run that succeeded. -/
theorem error_wholeDeath? {inputFile : Option String} {warnings : String} {r : Written}
    (hDies : w.wholeDeath? inputFile profile warnings e = some r) : r.error ≠ none := by
  unfold World.wholeDeath? at hDies
  split at hDies
  · cases hDies
  · obtain ⟨log, -, rfl⟩ := Option.map_eq_some_iff.mp hDies
    exact nofun

/-- The same of a death in the middle of a stream, although output was written before it. -/
theorem error_streamDeath? {warnings : String} {r : Written}
    (hDies : w.streamDeath? profile warnings e = some r) : r.error ≠ none := by
  obtain ⟨found, -, rfl⟩ := Option.map_eq_some_iff.mp hDies
  exact nofun

/-- A command that died has failed. -/
theorem error_death {command : Command} {r : Written}
    (hDies : w.death? t quiet command = some r) : r.error ≠ none := by
  cases command with
  | filter o =>
      unfold World.death? at hDies
      dsimp only at hDies
      split at hDies
      · split at hDies
        · split at hDies
          · exact error_streamDeath? hDies
          · exact error_wholeDeath? hDies
        · cases hDies
      · cases hDies
  | scan o =>
      unfold World.death? at hDies
      dsimp only at hDies
      split at hDies
      · split at hDies
        · exact error_wholeDeath? hDies
        · cases hDies
      · cases hDies
  | terms source => cases hDies

/-- An expurgation of a whole input dies where the input has a match, before it has printed. -/
theorem wholeDeath?_cases (alike : e.Alike e') (hMethod : e.config.settings.filterMethod = .censor)
    (w : World) (inputFile : Option String) (profile : ProfileId) (warnings : String) :
    (w.wholeDeath? inputFile profile warnings e' = none ∧ ∀ text, w.input inputFile = .ok text →
      (e.expurgate text profile true).1.outcome.matched = []) ∨
    ∃ r, w.wholeDeath? inputFile profile warnings e' = some r ∧ r.Died [] ∧
      ∃ text, w.input inputFile = .ok text ∧
        (e.expurgate text profile true).1.outcome.matched ≠ [] := by
  unfold World.wholeDeath?
  cases w.input inputFile with
  | error error => exact .inl ⟨rfl, nofun⟩
  | ok text =>
      have hMasks := Engine.isSome_untilMask?_iff hMethod text profile true
      dsimp only
      rw [alike.untilMask? profile text]
      cases hMask : e.untilMask? text profile with
      | none =>
          rw [hMask] at hMasks
          refine .inl ⟨rfl, fun text' hSame => ?_⟩
          obtain rfl := Except.ok.inj hSame
          exact not_not.mp (mt hMasks.mpr nofun)
      | some log =>
          rw [hMask] at hMasks
          exact .inr ⟨_, rfl, ⟨⟨_, rfl⟩, rfl, rfl⟩, text, rfl, hMasks.mp rfl⟩

/-- An expurgation line by line dies at the first line that has a match, and those before it are
printed as they came. -/
theorem streamDeath?_cases {selector : Selector} (alike : (Engine.new c selector).Alike e')
    (hMethod : c.settings.filterMethod = .censor) (hLines : none ∉ streamLines w.stdin)
    (profile : ProfileId) (warnings : String) :
    let matched (text : String) :=
      ((Engine.new c selector).expurgate text profile true).1.outcome.matched
    (w.streamDeath? profile warnings e' = none ∧
      ∀ text, some text ∈ streamLines w.stdin → matched text = []) ∨
    ∃ r, w.streamDeath? profile warnings e' = some r ∧
      r.Died ((readable (streamLines w.stdin)).takeWhile fun text => (matched text).isEmpty) ∧
      ∃ text, some text ∈ streamLines w.stdin ∧ matched text ≠ [] := by
  intro matched
  have hMasks (text : String) :
      ((Engine.new c selector).untilMask? text profile).isSome = true ↔ matched text ≠ [] :=
    Engine.isSome_untilMask?_iff hMethod text profile true
  have hSome := Engine.isSome_untilMaskedLine?_iff (Engine.new c selector) profile hLines
  unfold World.streamDeath?
  rw [alike.untilMaskedLine? profile]
  cases hFound : (Engine.new c selector).untilMaskedLine? profile (streamLines w.stdin) with
  | none =>
      rw [hFound] at hSome
      refine .inl ⟨rfl, fun text hMem => ?_⟩
      by_contra hMatched
      cases hSome.mpr ⟨text, hMem, (hMasks text).mpr hMatched⟩
  | some found =>
      obtain ⟨earlier, log⟩ := found
      rw [hFound] at hSome
      obtain ⟨text, hMem, hMask⟩ := hSome.mp rfl
      have hNone : (fun text => ((Engine.new c selector).untilMask? text profile).isNone) =
          fun text => (matched text).isEmpty :=
        funext fun text => Engine.isNone_untilMask?_eq hMethod text profile true
      have hEarlier := Engine.lines_of_untilMaskedLine? hFound
      rw [hNone] at hEarlier
      refine .inr ⟨_, rfl, ⟨⟨_, rfl⟩, ?_, rfl⟩, text, hMem, (hMasks text).mp hMask⟩
      dsimp only
      rw [alike.stream, hEarlier]
      refine Engine.output_stream_of_unmatched c selector _ fun text hMem => ?_
      exact List.isEmpty_iff.mp
        (List.mem_takeWhile_imp (p := fun text => (matched text).isEmpty) hMem)

variable (hConfig : w.config o.source.config = .ok c)
  (hProfile : requestedProfile o.source.profile = .ok profile)

include hConfig hProfile

/-- Where configuration and profile are known, what exhausts a request is a property of the engine
it begins with, and of the texts that are handed to it. -/
theorem exhausted_iff : w.Exhausted o ↔ (o.engine w c).Overfills w.room ∧
    ∃ text, w.Hands o text ∧
      ((o.engine w c).expurgate text profile true).1.outcome.matched ≠ [] := by
  constructor
  · rintro ⟨c', profile', hConfig', hProfile', hRest⟩
    obtain rfl := Except.ok.inj (hConfig.symm.trans hConfig')
    obtain rfl := Except.ok.inj (hProfile.symm.trans hProfile')
    exact hRest
  · exact fun hRest => ⟨c, profile, hConfig, hProfile, hRest⟩

/-- A request dies exactly where it comes to a mask that there is no room for. -/
theorem death?_started (hLines : none ∉ streamLines w.stdin) (t : Theme) (quiet : Bool) :
    (w.death? t quiet (.filter o) = none ∧ ¬w.Exhausted o) ∨
    ∃ r, w.death? t quiet (.filter o) = some r ∧ w.Exhausted o ∧
      r.Died (if o.lineBuffered then o.leadingLines w c profile else []) := by
  rw [exhausted_iff hConfig hProfile]
  simp only [World.death?, hConfig, hProfile]
  by_cases hOver : (o.engine w c).Overfills w.room
  · have alike := alike_begun t w.stderrTerminal profile o w c quiet
    rw [if_pos hOver]
    cases hBuffered : o.lineBuffered with
    | false =>
        simp only [World.Hands, hBuffered]
        rcases wholeDeath?_cases alike hOver.1 w o.inputFile profile _ with
          ⟨hNone, hUnmatched⟩ | ⟨r, hDies, died, text, hInput, hMatched⟩
        · exact .inl ⟨hNone, fun ⟨_, text, hInput, hMatched⟩ => hMatched (hUnmatched text hInput)⟩
        · exact .inr ⟨r, hDies, ⟨hOver, text, hInput, hMatched⟩, died⟩
    | true =>
        simp only [World.Hands, hBuffered]
        rcases streamDeath?_cases alike hOver.1 hLines profile _ with
          ⟨hNone, hUnmatched⟩ | ⟨r, hDies, died, text, hMem, hMatched⟩
        · exact .inl ⟨hNone, fun ⟨_, text, hMem, hMatched⟩ => hMatched (hUnmatched text hMem)⟩
        · exact .inr ⟨r, hDies, ⟨hOver, text, hMem, hMatched⟩, died⟩
  · rw [if_neg hOver]
    exact .inl ⟨rfl, fun hExhausted => hOver hExhausted.1⟩

end Death

/-- A request dies exactly where it comes to a mask that there is no room for. -/
theorem death?_cases (hLines : none ∉ streamLines w.stdin) (t : Theme) (quiet : Bool)
    (o : FilterOptions) :
    (w.death? t quiet (.filter o) = none ∧ ¬w.Exhausted o) ∨
    ∃ c profile r, w.config o.source.config = .ok c ∧
      requestedProfile o.source.profile = .ok profile ∧
      w.death? t quiet (.filter o) = some r ∧ w.Exhausted o ∧
      r.Died (if o.lineBuffered then o.leadingLines w c profile else []) := by
  rcases runFilter_cases w t o with ⟨error, -, hMissing⟩ | ⟨c, profile, hConfig, hProfile⟩
  · refine .inl ⟨?_, fun ⟨c, profile, hConfig, hProfile, _⟩ =>
      hMissing ⟨⟨c, hConfig⟩, profile, hProfile⟩⟩
    unfold World.death?
    dsimp only
    split
    · rename_i c profile hConfig hProfile
      exact absurd ⟨⟨c, hConfig⟩, profile, hProfile⟩ hMissing
    · rfl
  · exact (death?_started hConfig hProfile hLines t quiet).imp_right
      fun ⟨r, hRest⟩ => ⟨c, profile, r, hConfig, hProfile, hRest⟩

section Invocation

variable {i : Invocation} {args : List String}

/-- No failure is reported by the code that stands for success, an aborted run included. -/
theorem RunError.code_ne_zero (error : RunError) : error.code ≠ 0 := by
  cases error <;> simp [code]

/-- Without a theme nothing is done. -/
theorem runInvocation_unthemed {fault : Theme.Fault}
    (hTheme : Theme.load w.files w.folder i.themeFile = .error fault) :
    (runInvocation w i).code = 1 ∧ (runInvocation w i).stdout = "" ∧
      (runInvocation w i).saved = none := by
  rw [runInvocation, hTheme]
  exact ⟨rfl, rfl, rfl⟩

/-- A run leaves what its command wrote until it ended, failed or died. -/
theorem runInvocation_themed (hTheme : Theme.load w.files w.folder i.themeFile = .ok t) :
    let r := (w.death? t i.quiet i.command).getD (runCommand w t i.quiet i.command)
    ((runInvocation w i).code = 0 ↔ r.error = none) ∧ (runInvocation w i).stdout = r.stdout ∧
      (runInvocation w i).saved = r.saved := by
  have hCode (r : Written) : (r.error.map RunError.code).getD 0 = 0 ↔ r.error = none := by
    cases r.error with
    | none => exact iff_of_true rfl rfl
    | some error => exact iff_of_false error.code_ne_zero nofun
  simp only [runInvocation, hTheme]
  cases w.death? t i.quiet i.command <;> exact ⟨hCode _, rfl, rfl⟩

/-- A request that has its theme and comes to no mask for which there is no room is up to its command:
it succeeds if that has all it rests on, and leaves nothing behind otherwise. -/
theorem runInvocation_alive (hTheme : Theme.load w.files w.folder i.themeFile = .ok t)
    (hFilter : i.command = .filter o) (hStdin : ∃ text, decodeText w.stdin = some text)
    (hAlive : w.death? t i.quiet (.filter o) = none) :
    ((runInvocation w i).code = 0 ↔ w.Provides i.themeFile o) ∧
      ((runInvocation w i).code ≠ 0 →
        (runInvocation w i).saved = none ∧ (runInvocation w i).stdout = "") := by
  obtain ⟨hCode, hStdout, hSaved⟩ := runInvocation_themed hTheme
  rw [hFilter, hAlive, Option.getD_none, runCommand] at hCode hStdout hSaved
  refine ⟨?_, fun hFailed => ?_⟩
  · rw [hCode, error_runFilter hStdin]
    constructor
    · rintro ⟨hConfig, hProfile, hWhole⟩
      exact ⟨⟨t, hTheme⟩, hConfig, hProfile, fun h => (hWhole h).1, fun h => (hWhole h).2⟩
    · intro provides
      exact ⟨provides.config, provides.profile, fun h => ⟨provides.input h, provides.output h⟩⟩
  · have traceless : (runFilter w t i.quiet o).Traceless := traceless_runFilter hStdin
    rw [Ne, hCode] at hFailed
    exact ⟨hSaved.trans (traceless.saved hFailed), hStdout.trans (traceless.stdout hFailed)⟩

/-- A request that dies has failed. What it had printed by then is still there, and no file is. -/
theorem runInvocation_died (hTheme : Theme.load w.files w.folder i.themeFile = .ok t)
    {left : Written} (hDies : w.death? t i.quiet i.command = some left) {printed : List String}
    (died : left.Died printed) : (runInvocation w i).code ≠ 0 ∧
      (runInvocation w i).stdout.toList = (printed.flatMap fun text => (line text).toList) ∧
      (runInvocation w i).saved = none := by
  obtain ⟨hCode, hStdout, hSaved⟩ := runInvocation_themed hTheme
  rw [hDies, Option.getD_some] at hCode hStdout hSaved
  obtain ⟨bytes, hError⟩ := died.error
  refine ⟨?_, ?_, hSaved.trans died.saved⟩
  · rw [Ne, hCode, hError]
    exact nofun
  · rw [hStdout, died.stdout]

/-- What is left of one request, with the words of the command line read. The run may end in four
ways: it lacks the theme, it lacks something else, it dies, or it succeeds. -/
theorem runInvocation_filter (hFilter : i.command = .filter o)
    (hStdin : ∃ text, decodeText w.stdin = some text) :
    let r := runInvocation w i
    (r.code = 0 ↔ w.Provides i.themeFile o ∧ ¬w.Exhausted o) ∧
      (r.code ≠ 0 → r.saved = none ∧ (r.stdout = "" ∨ o.lineBuffered = true ∧ w.Exhausted o)) ∧
      ∀ c profile, w.config o.source.config = .ok c →
        requestedProfile o.source.profile = .ok profile →
        w.Provides i.themeFile o → o.lineBuffered = true → w.Exhausted o →
        r.stdout.toList = (o.leadingLines w c profile).flatMap fun text => (line text).toList := by
  intro r
  have hLines : none ∉ streamLines w.stdin := none_not_mem_streamLines hStdin.choose_spec
  cases hTheme : Theme.load w.files w.folder i.themeFile with
  | error fault =>
      obtain ⟨hCode, hStdout, hSaved⟩ := runInvocation_unthemed hTheme
      have hNone : ¬w.Provides i.themeFile o := by
        rintro ⟨⟨t, hOk⟩, -⟩
        rw [hTheme] at hOk
        cases hOk
      refine ⟨iff_of_false ?_ fun provides => hNone provides.1, fun _ => ⟨hSaved, .inl hStdout⟩,
        fun _ _ _ _ provides => absurd provides hNone⟩
      rw [hCode]
      exact Nat.one_ne_zero
  | ok t =>
      rcases death?_cases hLines t i.quiet o with
        ⟨hAlive, hRoom⟩ | ⟨c, profile, left, hConfig, hProfile, hDies, hExhausted, died⟩
      · obtain ⟨hCode, hFailed⟩ := runInvocation_alive hTheme hFilter hStdin hAlive
        refine ⟨hCode.trans (and_iff_left hRoom).symm, fun hNot => ?_,
          fun _ _ _ _ _ _ hExhausted => absurd hExhausted hRoom⟩
        exact (hFailed hNot).imp_right .inl
      · rw [← hFilter] at hDies
        obtain ⟨hNot, hPrinted, hSaved⟩ := runInvocation_died hTheme hDies died
        refine ⟨iff_of_false hNot fun h => h.2 hExhausted, fun _ => ⟨hSaved, ?_⟩,
          fun c' profile' hConfig' hProfile' _ hBuffered _ => ?_⟩
        · cases hBuffered : o.lineBuffered with
          | false =>
              rw [hBuffered] at hPrinted
              exact .inl (String.toList_inj.mp hPrinted)
          | true => exact .inr ⟨rfl, hExhausted⟩
        · obtain rfl := Except.ok.inj (hConfig.symm.trans hConfig')
          obtain rfl := Except.ok.inj (hProfile.symm.trans hProfile')
          rwa [if_pos hBuffered] at hPrinted

/-- A request to expurgate that fails leaves every file as it was, whatever it fails for. It fails
where something is missing that it rests on, or where it comes to a mask that there is no room for,
and for no other reason. It prints nothing then, but for lines that are expurgated as they come: if
there is no room for a mask, those in front of the first line with a match are printed. -/
theorem run_traceless (w : World) (args : List String)
    (hFilter : ∀ i, asked args = .run i → ∃ o, i.command = .filter o)
    (hStdin : ∃ text, decodeText w.stdin = some text) :
    ((run w args).code ≠ 0 → (run w args).files w.files = w.files ∧
      ((run w args).stdout = "" ∨ ∃ i o, asked args = .run i ∧ i.command = .filter o ∧
        o.lineBuffered = true ∧ w.Exhausted o)) ∧
    ∀ i o, asked args = .run i → i.command = .filter o →
      ((run w args).code = 0 ↔ w.Provides i.themeFile o ∧ ¬w.Exhausted o) ∧
      ∀ c profile, w.config o.source.config = .ok c →
        requestedProfile o.source.profile = .ok profile →
        w.Provides i.themeFile o → o.lineBuffered = true → w.Exhausted o →
        (run w args).stdout.toList =
          (o.leadingLines w c profile).flatMap fun text => (line text).toList := by
  cases hAsked : asked args with
  | run i =>
      obtain ⟨o, hCommand⟩ := hFilter i hAsked
      obtain ⟨hCode, hFailed, hPrinted⟩ := runInvocation_filter hCommand hStdin
      have hRun : run w args = runInvocation w i := by rw [run, hAsked]
      rw [hRun]
      refine ⟨fun hNot => ⟨?_, ?_⟩, fun i' o' hSame hCommand' => ?_⟩
      · rw [RunResult.files, (hFailed hNot).1]
      · exact (hFailed hNot).2.imp_right fun hExhausted => ⟨i, o, rfl, hCommand, hExhausted⟩
      · obtain rfl := Asked.run.inj hSame
        obtain rfl := Command.filter.inj (hCommand.symm.trans hCommand')
        exact ⟨hCode, hPrinted⟩
  | version | help => simp [run, hAsked]
  | unclear => simp [run, hAsked, RunResult.files]

/-- A profile without a name. The file that was to be written is there already, and stays. -/
theorem run_traceless_profile :
    let w := World.plain (utf8 "damn".toList) ⟨[(["out.txt"], .text "kept")], []⟩
    let args := ["filter", "-o", "out.txt", "--profile", " "]
    (∀ i, asked args = .run i → ∃ o, i.command = .filter o) ∧
      (∃ text, decodeText w.stdin = some text) ∧ (run w args).code ≠ 0 ∧
      (run w args).stdout = "" ∧ (run w args).files w.files = w.files := by
  intro w args
  let o : FilterOptions := ⟨⟨none, some " "⟩, none, some "out.txt", none, none, false, false, false⟩
  have hAsked : asked args = .run ⟨false, false, none, .filter o⟩ := by decide
  have hFilter : ∀ i, asked args = .run i → ∃ o, i.command = .filter o := by
    intro i hSame
    obtain rfl := Asked.run.inj (hAsked.symm.trans hSame)
    exact ⟨o, rfl⟩
  have hStdin : ∃ text, decodeText w.stdin = some text := ⟨_, decodeText_utf8 _⟩
  have hProfile : ¬∃ p, requestedProfile o.source.profile = .ok p := by
    rintro ⟨p, hOk⟩
    cases hOk
  obtain ⟨hLeft, hZero⟩ := run_traceless w args hFilter hStdin
  have hCode : (run w args).code ≠ 0 := fun hNone =>
    hProfile ((hZero _ o hAsked rfl).1.mp hNone).1.profile
  obtain ⟨hFiles, hEmpty | ⟨i', o', hSame, hCommand, hBuffered, -⟩⟩ := hLeft hCode
  · exact ⟨hFilter, hStdin, hCode, hEmpty, hFiles⟩
  · obtain rfl := Asked.run.inj (hAsked.symm.trans hSame)
    obtain rfl := Command.filter.inj hCommand
    cases hBuffered

end Invocation

end Expurgate
