import Expurgate.Command.Run

/-!
Which parts of the world a request looks at.
-/

namespace Expurgate

/-- The place that a path means inside a folder, whatever is there. Paths are told apart by what
they mean and not by how they are written. -/
def locationOf (folder : Location) (path : String) : Location :=
  (FileTree.names path).foldl (fun l name =>
    if name = "" ∨ name = "." then l
    else if name = ".." then l.dropLast
    else l ++ [name]) (FileTree.origin folder path)

def pathOf (l : Location) : String := "/" ++ String.intercalate "/" l

/-- Whether the value of a setting lets matched text appear in the log: `true` in any case. -/
def allowsText (value : Option String) : Bool :=
  value.any fun s => asciiLower s.toList = "true".toList

namespace Command

def source : Command → TermSource
  | filter o => o.source
  | scan o => o.source
  | terms s => s

def namedFiles : Command → List String
  | filter o => o.inputFile.toList ++ o.outputFile.toList
  | scan o => o.inputFile.toList
  | terms _ => []

def readsStdin : Command → Bool
  | filter o => o.inputFile.isNone
  | scan o => o.inputFile.isNone
  | terms _ => false

end Command

/-- The files that a request may look at. -/
def Invocation.files (i : Invocation) (home configFolder : Option String) : List String :=
  i.themeFile.toList ++ i.command.source.config.toList ++ i.command.namedFiles
    ++ candidatePaths home configFolder

end Expurgate
