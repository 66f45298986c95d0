import Expurgate.Config.Basic

/-!
What a user can ask the program to do.
-/

namespace Expurgate

structure TermSource where
  /-- The file with the user's configuration, if it is not to be looked for. -/
  config : Option String
  /-- The profile as the user wrote it. -/
  profile : Option String
  deriving Repr, DecidableEq

/-- A request to expurgate a text. -/
structure FilterOptions where
  source : TermSource
  inputFile : Option String
  outputFile : Option String
  method : Option FilterMethod
  seed : Option Nat
  showDiff : Bool
  lineBuffered : Bool
  noSummary : Bool
  deriving Repr, DecidableEq

structure ScanOptions where
  source : TermSource
  inputFile : Option String
  threshold : Option Nat
  json : Bool
  deriving Repr, DecidableEq

inductive Command where
  | filter (o : FilterOptions)
  | scan (o : ScanOptions)
  | terms (source : TermSource)
  deriving Repr, DecidableEq

/-- A request with what holds for all requests. -/
structure Invocation where
  quiet : Bool
  debug : Bool
  themeFile : Option String
  command : Command
  deriving Repr, DecidableEq

inductive Asked where
  | run (i : Invocation)
  | version
  | help
  /-- The command line is not well formed. -/
  | unclear
  deriving Repr, DecidableEq

end Expurgate
