import Expurgate.Command.Options
import Expurgate.Config.Format

/-!
Reading command lines. Options stand before or behind the name of the command; those that hold for
all commands may stand in both places, and what stands behind counts.
-/

namespace Expurgate

/-- What an option takes. This decides what the next argument is taken for. -/
inductive OptionKind where
  | switch
  /-- A value that the test accepts. -/
  | value (accepts : String → Bool)
  | help
  | version

structure OptionSpec where
  long : String
  short : Option Char
  kind : OptionKind

/-- The options found so far, each with its value. -/
abbrev Given := List (String × String)

inductive Halt where
  | version
  | help
  | unclear
  deriving Repr, DecidableEq

namespace Given

def has (g : Given) (name : String) : Bool := g.any (·.1 = name)

/-- Adds an option, which may be given once only. -/
def add (g : Given) (name value : String) : Except Halt Given :=
  if g.has name then .error .unclear else .ok ((name, value) :: g)

end Given

/-- Whether an argument can stand as the value of the option in front of it. One that looks like an
option cannot, unless it is a lone dash. -/
def canBeValue (s : String) : Bool := s = "-" || s.toList.head? ≠ some '-'

/-- Adds an option with a value, which is taken from the next argument if none is attached. -/
def addValued (g : Given) (o : OptionSpec) (accepts : String → Bool) (attached : Option String)
    (rest : List String) : Except Halt (Given × List String) :=
  match attached, rest with
  | some v, _ => if accepts v then (g.add o.long v).map (·, rest) else .error .unclear
  | none, v :: rest =>
    if canBeValue v && accepts v then (g.add o.long v).map (·, rest) else .error .unclear
  | none, [] => .error .unclear

/-- Adds an option written with its long name. -/
def addLong (specs : List OptionSpec) (g : Given) (arg : List Char) (rest : List String) :
    Except Halt (Given × List String) :=
  let name := String.ofList (arg.takeWhile (· ≠ '='))
  let attached := match arg.dropWhile (· ≠ '=') with
    | [] => none
    | _ :: v => some (String.ofList v)
  match specs.find? (·.long = name) with
  | none => .error .unclear
  | some o =>
    match o.kind, attached with
    | .value accepts, _ => addValued g o accepts attached rest
    | .switch, none => (g.add o.long "").map (·, rest)
    | .help, none => .error .help
    | .version, none => .error .version
    | _, some _ => .error .unclear

/-- Adds options written with short names, one behind the other. What follows the name of an option
with a value is its value. -/
def addShort (specs : List OptionSpec) (rest : List String) :
    List Char → Given → Except Halt (Given × List String)
  | [], g => .ok (g, rest)
  | c :: more, g =>
    match specs.find? (·.short = some c) with
    | none => .error .unclear
    | some o =>
      match o.kind with
      | .help => .error .help
      | .version => .error .version
      | .switch =>
        match g.add o.long "" with
        | .ok g => addShort specs rest more g
        | .error h => .error h
      | .value accepts =>
        let attached := match more with
          | [] => none
          | '=' :: v => some (String.ofList v)
          | v => some (String.ofList v)
        addValued g o accepts attached rest

/-- Reads options up to the name of a command or the end. What is left over after the name is read
by the command itself. -/
def readOptions (specs : List OptionSpec) (commands : List String) :
    Nat → Given → List String → Except Halt (Given × Option (String × List String))
  | 0, _, _ => .error .unclear
  | _, g, [] => .ok (g, none)
  | fuel + 1, g, arg :: rest =>
    if commands.contains arg then .ok (g, some (arg, rest))
    else
      match arg.toList with
      | ['-', '-'] => if rest.isEmpty then .ok (g, none) else .error .unclear
      | '-' :: '-' :: long => do
        let (g, rest) ← addLong specs g long rest
        readOptions specs commands fuel g rest
      | '-' :: c :: short => do
        let (g, rest) ← addShort specs rest (c :: short) g
        readOptions specs commands fuel g rest
      | _ => .error .unclear

/-- A number below the limit of counts, which may have a plus sign in front. -/
def countArgument? (s : String) : Option Nat :=
  let digits := match s.toList with
    | '+' :: rest => rest
    | l => l
  if digits.isEmpty || !digits.all Char.isDigit then none
  else
    let n := digits.foldl (fun n d => 10 * n + (d.toNat - 48)) 0
    if n < Format.countLimit then some n else none

def isPath (s : String) : Bool := s ≠ ""

def commonSpecs : List OptionSpec :=
  [⟨"quiet", some 'q', .switch⟩, ⟨"debug", some 'd', .switch⟩, ⟨"theme", none, .value isPath⟩,
    ⟨"help", some 'h', .help⟩]

def sourceSpecs : List OptionSpec :=
  [⟨"config", none, .value isPath⟩, ⟨"profile", some 'p', .value fun _ => true⟩]

def filterSpecs : List OptionSpec :=
  [⟨"input-file", some 'i', .value isPath⟩, ⟨"output", some 'o', .value isPath⟩,
    ⟨"method", some 'm', .value fun s => (FilterMethod.ofName? s).isSome⟩,
    ⟨"seed", none, .value fun s => (countArgument? s).isSome⟩, ⟨"diff", some 'D', .switch⟩,
    ⟨"line-buffered", none, .switch⟩, ⟨"no-summary", none, .switch⟩]

def scanSpecs : List OptionSpec :=
  [⟨"input-file", some 'i', .value isPath⟩,
    ⟨"fail-over-threshold", none, .value fun s => (countArgument? s).isSome⟩,
    ⟨"json-stdout", none, .switch⟩]

def specsOf (command : String) : List OptionSpec :=
  commonSpecs ++ sourceSpecs ++
    if command = "filter" then filterSpecs else if command = "scan" then scanSpecs else []

def commandNames : List String := ["filter", "scan", "terms", "help"]

/-- Whether options that exclude each other are given together. -/
def excluded (g : Given) : Bool :=
  g.has "quiet" && g.has "debug"
    || g.has "line-buffered" && (g.has "input-file" || g.has "diff")

def commandOf (name : String) (g : Given) : Command :=
  let source : TermSource := ⟨g.lookup "config", g.lookup "profile"⟩
  if name = "filter" then
    .filter
      { source := source
        inputFile := g.lookup "input-file"
        outputFile := g.lookup "output"
        method := (g.lookup "method").bind FilterMethod.ofName?
        seed := (g.lookup "seed").bind countArgument?
        showDiff := g.has "diff"
        lineBuffered := g.has "line-buffered"
        noSummary := g.has "no-summary" }
  else if name = "scan" then
    .scan
      { source := source
        inputFile := g.lookup "input-file"
        threshold := (g.lookup "fail-over-threshold").bind countArgument?
        json := g.has "json-stdout" }
  else .terms source

/-- What a call for help leads to. It may name one command. -/
def helpWith (arguments : List String) : Halt :=
  match arguments with
  | [] => .help
  | [name] => if commandNames.contains name then .help else .unclear
  | _ => .unclear

/-- Reads a command line, or says why not. -/
def readInvocation (args : List String) : Except Halt Invocation := do
  let fuel := args.length + 1
  let rootSpecs := ⟨"version", some 'V', .version⟩ :: commonSpecs
  let (outer, command) ← readOptions rootSpecs commandNames fuel [] args
  match command with
  | none => throw .unclear
  | some (name, rest) =>
    if name = "help" then throw (helpWith rest)
    else
      let (inner, _) ← readOptions (specsOf name) [] fuel [] rest
      if excluded outer || excluded inner then throw .unclear
      else
        return {
          quiet := outer.has "quiet" || inner.has "quiet"
          debug := outer.has "debug" || inner.has "debug"
          themeFile := (inner.lookup "theme").or (outer.lookup "theme")
          command := commandOf name inner }

def asked (args : List String) : Asked :=
  match readInvocation args with
  | .ok i => .run i
  | .error .version => .version
  | .error .help => .help
  | .error .unclear => .unclear

end Expurgate
