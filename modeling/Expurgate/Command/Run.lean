import Expurgate.Command.Arguments
import Expurgate.Config.Discovery
import Expurgate.Engine.Room
import Expurgate.Report.Difference
import Expurgate.Report.Scan
import Expurgate.Report.Summary
import Expurgate.Report.Terms
import Expurgate.Report.ThemeFile

/-!
Running the program: from the arguments, the input and the files to everything that it writes.
-/

namespace Expurgate

structure World where
  stdin : List UInt8
  files : FileTree
  /-- The folder that relative paths begin in. -/
  folder : Location
  home : Option String
  configFolder : Option String
  /-- Whether matched text may appear in the debug log. -/
  logText : Bool
  /-- What a generator without a seed draws. -/
  draws : List Nat → Nat
  /-- What a generator draws from a seed. -/
  seeded : Nat → List Nat → Nat
  stdoutTerminal : Bool
  stderrTerminal : Bool
  /-- How many bytes memory has for a text of its own. -/
  room : Nat

/-- A world with an input and some files, with no terminals, and with nothing else to look at. -/
def World.plain (stdin : List UInt8) (files : FileTree) : World where
  stdin := stdin
  files := files
  folder := []
  home := none
  configFolder := none
  logText := false
  draws := fun _ => 0
  seeded := fun seed _ => seed
  stdoutTerminal := false
  stderrTerminal := false
  room := 0x800000000000

/-- What a run leaves behind. It is what another program could see of the run: the exit code, what
was printed to either stream, and the files. -/
structure RunResult where
  code : Nat
  stdout : String
  stderr : String
  /-- The lines of the debug log on matches. -/
  log : List String
  /-- The file that was written, if one was. -/
  saved : Option (Location × String)
  deriving Repr, DecidableEq

inductive RunError where
  | theme (fault : Theme.Fault)
  | config (path : String) (fault : ConfigFault)
  /-- The user's terms do not go together with the built-in ones. -/
  | merged (faults : List TermFault)
  | profile (name : String) (error : FilterError)
  | input (path : String) (fault : FileFault)
  | stdin (fault : FileFault)
  | line (fault : FileFault)
  | output (path : String) (fault : FileFault)
  | threshold (total limit : Nat)
  /-- Memory has no room for so many bytes. -/
  | memory (bytes : Nat)
  deriving Repr, DecidableEq

def RunError.message : RunError → String
  | theme fault => fault.message
  | config path fault => s!"Failed to load filter configuration from {path}: {fault.message}"
  | merged faults => faultReport faults
  | profile name error => s!"Invalid profile name '{name}': {error.message}"
  | input path fault => s!"Failed to read input file: {path}: {fault.message}"
  | stdin fault => s!"Failed to read from stdin: {fault.message}"
  | line fault => s!"Failed to read line from input: {fault.message}"
  | output path fault => s!"Failed to create output file: {path}: {fault.message}"
  | threshold total limit => s!"Found {total} matches, exceeding the threshold of {limit}."
  | memory bytes => roomMessage bytes

/-- The exit code that goes with an error. Without memory a run is aborted. -/
def RunError.code : RunError → Nat
  | memory _ => 134
  | _ => 1

/-- What is told of an error. An aborted run tells it without any colours or mark of its own. -/
def RunError.report (t : Theme) (colours : Bool) : RunError → String
  | memory bytes => roomMessage bytes ++ "\n"
  | error => MessageLevel.error.message t colours error.message

def RunResult.files (r : RunResult) (before : FileTree) : FileTree :=
  match r.saved with
  | some (l, s) => before.put l s
  | none => before

/-- What a command wrote until it ended or failed. Of a command that fails, this is what was printed
before it did. -/
structure Written where
  stdout : String
  stderr : String
  log : List LogRecord
  saved : Option (Location × String)
  error : Option RunError

namespace Written

def failed (stderr : String) (error : RunError) : Written := ⟨"", stderr, [], none, some error⟩

end Written

/-- The profile that the user asks for; all terms if none is named. -/
def requestedProfile : Option String → Except RunError ProfileId
  | none => .ok .all
  | some name =>
    match ProfileId.parse name with
    | .ok p => .ok p
    | .error e => .error (.profile name e)

namespace World

variable (w : World)

/-- The configuration file to be used: the one named, or the first that is there. A file that is
named has to be there, and one that is not named may be missing. -/
def configPath (named : Option String) : Option String :=
  match named with
  | some path => some path
  | none => (candidatePaths w.home w.configFolder).find? (w.files.isFile w.folder ·)

def userConfig (named : Option String) : Except RunError (Option Config) :=
  match w.configPath named with
  | none => .ok none
  | some path =>
    match Config.load w.files w.folder path with
    | .ok c => .ok (some c)
    | .error fault => .error (.config path fault)

/-- The configuration in effect: the user's over the built-in one. -/
def config (named : Option String) : Except RunError Config := do
  let c := Config.builtIn.mergeOption (← w.userConfig named)
  match c.validate with
  | .ok () => return c
  | .error faults => throw (.merged faults)

def input : Option String → Except RunError String
  | some path =>
    match w.files.read w.folder path with
    | .ok s => .ok s
    | .error fault => .error (.input path fault)
  | none =>
    match decodeText w.stdin with
    | some s => .ok s
    | none => .error (.stdin .invalidText)

/-- Who chooses in a run, with a seed or without. With a seed its draws are those of the seed, and
without one they are those of the world. -/
def selector : Option Nat → Selector
  | some seed => .drawn (w.seeded seed) []
  | none => .drawn w.draws []

end World

/-- Warnings about a profile that is not declared and about terms that were left out, and the engine
with the profile's terms built. -/
def startWarnings (t : Theme) (colours : Bool) (profile : ProfileId) (e : Engine) :
    String × Engine :=
  let undeclared :=
    match e.config.checkProfile profile with
    | .error error =>
      if e.config.settings.profilesEnabled then
        MessageLevel.warn.message t colours s!"{error.message}; no terms will be applied."
      else ""
    | .ok () => ""
  let (built, e, _) := e.termSet profile
  let rejected := built.set.rejected.length
  let skipped :=
    if rejected = 0 then ""
    else
      MessageLevel.warn.message t colours
        (s!"{rejected} configured term(s) could not be compiled and were skipped. " ++
          "Run `termfilter terms` for details.")
  (undeclared ++ skipped, e)

/-- What a command begins with: nothing if it is to be still, or the warnings. -/
def Engine.begun (e : Engine) (t : Theme) (colours : Bool) (profile : ProfileId) (still : Bool) :
    String × Engine :=
  if still then ("", e) else startWarnings t colours profile e

/-- What an expurgation writes to its destination: the text, or what changed in it. -/
def primaryOutput (t : Theme) (colours showDiff : Bool) (o : Outcome) : String :=
  if showDiff then differenceReport t colours o.input o.filtered else closeLine o.filtered

def runStream (w : World) (t : Theme) (o : FilterOptions) (quiet : Bool) (profile : ProfileId)
    (warnings : String) (e : Engine) : Written :=
  let (done, _) := Engine.stream profile (streamLines w.stdin) e
  let summary :=
    if o.noSummary || quiet || done.fault.isSome then ""
    else summaryReport t w.stderrTerminal (summarize done.matched)
  ⟨done.output, warnings ++ summary, done.log, none, done.fault.map .line⟩

/-- Expurgates the whole input. A file is written without colours, wherever the messages go. -/
def runWhole (w : World) (t : Theme) (o : FilterOptions) (quiet : Bool) (profile : ProfileId)
    (warnings : String) (e : Engine) : Written :=
  match w.input o.inputFile with
  | .error error => .failed warnings error
  | .ok text =>
    let (done, _) := e.expurgate text profile true
    let summary :=
      if o.noSummary || quiet then ""
      else summaryReport t w.stderrTerminal (summarize done.outcome.matched)
    match o.outputFile with
    | none =>
      ⟨primaryOutput t w.stdoutTerminal o.showDiff done.outcome, warnings ++ summary, done.log, none,
        none⟩
    | some path =>
      let notice :=
        if quiet then ""
        else MessageLevel.info.message t w.stderrTerminal
          s!"Writing filtered content to file: {path}"
      match w.files.target w.folder path with
      | .ok l =>
        ⟨"", warnings ++ notice ++ summary, done.log,
          some (l, primaryOutput t false o.showDiff done.outcome), none⟩
      | .error fault =>
        ⟨"", warnings ++ notice, done.log, none, some (.output path fault)⟩

/-- The configuration that a request to expurgate works with. -/
def FilterOptions.applied (o : FilterOptions) (c : Config) : Config :=
  { c with
    settings := { c.settings with filterMethod := o.method.getD c.settings.filterMethod } }

/-- The engine that such a request has anew. -/
def FilterOptions.engine (o : FilterOptions) (w : World) (c : Config) : Engine :=
  .new (o.applied c) (w.selector o.seed)

def runFilter (w : World) (t : Theme) (quiet : Bool) (o : FilterOptions) : Written :=
  match w.config o.source.config, requestedProfile o.source.profile with
  | .error error, _ => .failed "" error
  | .ok _, .error error => .failed "" error
  | .ok c, .ok profile =>
    let (warnings, e) := (o.engine w c).begun t w.stderrTerminal profile quiet
    if o.lineBuffered then runStream w t o quiet profile warnings e
    else runWhole w t o quiet profile warnings e

def runScan (w : World) (t : Theme) (quiet : Bool) (o : ScanOptions) : Written :=
  match w.config o.source.config, requestedProfile o.source.profile with
  | .error error, _ => .failed "" error
  | .ok _, .error error => .failed "" error
  | .ok c, .ok profile =>
    let (warnings, e) :=
      (Engine.new c (w.selector none)).begun t w.stderrTerminal profile (quiet || o.json)
    match w.input o.inputFile with
    | .error error => .failed warnings error
    | .ok text =>
      let (report, done, _) := e.scan text profile
      let stdout := if o.json then line report.encode.pretty else ""
      let summary :=
        if o.json || quiet then "" else summaryReport t w.stderrTerminal report.terms
      let error := match o.threshold with
        | some limit =>
          if report.exceeds (some limit) then some (.threshold report.totalMatches limit) else none
        | none => none
      ⟨stdout, warnings ++ summary, done.log, none, error⟩

def runTerms (w : World) (source : TermSource) : Written :=
  match w.config source.config, requestedProfile source.profile with
  | .error error, _ => .failed "" error
  | .ok _, .error error => .failed "" error
  | .ok c, .ok profile =>
    let (built, _, _) := (Engine.new c (w.selector none)).termSet profile
    ⟨built.set.listing, "", [], none, none⟩

/-- Runs a command that finds the room it needs. -/
def runCommand (w : World) (t : Theme) (quiet : Bool) : Command → Written
  | .filter o => runFilter w t quiet o
  | .scan o => runScan w t quiet o
  | .terms source => runTerms w source

namespace World

variable (w : World)

/-- What an expurgation of the whole input has written when it dies for want of room, if it does. It
dies before anything is printed. -/
def wholeDeath? (inputFile : Option String) (profile : ProfileId) (warnings : String)
    (e : Engine) : Option Written :=
  match w.input inputFile with
  | .error _ => none
  | .ok text => (e.untilMask? text profile).map fun log =>
    { Written.failed warnings (.memory e.config.settings.censorFixedLength) with log := log }

/-- What an expurgation line by line has written when it dies. The lines before are printed. The
line that dies has printed nothing itself. -/
def streamDeath? (profile : ProfileId) (warnings : String) (e : Engine) : Option Written :=
  (e.untilMaskedLine? profile (streamLines w.stdin)).map fun (lines, log) =>
    let (done, _) := Engine.stream profile lines e
    ⟨done.output, warnings, done.log ++ log, none,
      some (.memory e.config.settings.censorFixedLength)⟩

/-- What a command has written when it dies, if it does. A command that dies has no files written,
since it would write them at its end. -/
def death? (t : Theme) (quiet : Bool) : Command → Option Written
  | .filter o =>
    match w.config o.source.config, requestedProfile o.source.profile with
    | .ok c, .ok profile =>
      if (o.engine w c).Overfills w.room then
        let (warnings, e) := (o.engine w c).begun t w.stderrTerminal profile quiet
        if o.lineBuffered then w.streamDeath? profile warnings e
        else w.wholeDeath? o.inputFile profile warnings e
      else none
    | _, _ => none
  | .scan o =>
    match w.config o.source.config, requestedProfile o.source.profile with
    | .ok c, .ok profile =>
      let e := Engine.new c (w.selector none)
      if e.Overfills w.room then
        let (warnings, e) := e.begun t w.stderrTerminal profile (quiet || o.json)
        w.wholeDeath? o.inputFile profile warnings e
      else none
    | _, _ => none
  | .terms _ => none

end World

/-- Runs a request. Without a usable theme nothing is done, and the default theme serves to say so. A
command that dies for want of room is never run to its end. -/
def runInvocation (w : World) (i : Invocation) : RunResult :=
  let (t, written) : Theme × Written :=
    match Theme.load w.files w.folder i.themeFile with
    | .error fault => (.default, .failed "" (.theme fault))
    | .ok t =>
      match w.death? t i.quiet i.command with
      | some written => (t, written)
      | none => (t, runCommand w t i.quiet i.command)
  { code := (written.error.map RunError.code).getD 0
    stdout := written.stdout
    stderr := written.stderr ++ (written.error.map (·.report t w.stderrTerminal)).getD ""
    log := if i.debug && !i.quiet then written.log.map (·.line w.logText) else []
    saved := written.saved }

def versionText : String := "termfilter 0.1.0\n"

def usageText : String :=
  "Usage: termfilter [OPTIONS] <COMMAND>\n\nCommands:\n" ++
    "  filter  Rewrites an input file or stdin, filtering configured terms.\n" ++
    "  scan    Scans an input for configured terms and summarizes them without rewriting.\n" ++
    "  terms   Lists the compiled terms of a profile in the order they are applied.\n"

def run (w : World) (args : List String) : RunResult :=
  match asked args with
  | .run i => runInvocation w i
  | .version => ⟨0, versionText, "", [], none⟩
  | .help => ⟨0, usageText, "", [], none⟩
  | .unclear => ⟨2, "", usageText, [], none⟩

end Expurgate
