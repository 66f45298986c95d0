import Expurgate.Config.BuiltIn
import Expurgate.Config.Codec
import Expurgate.Config.Merge
import Expurgate.Config.Validation
import Expurgate.Files
import Expurgate.Yaml.Format

/-!
Where the user's configuration comes from.
-/

namespace Expurgate

inductive ConfigFault where
  | unreadable (path : String) (fault : FileFault)
  /-- The text is no YAML, or not that of a configuration. -/
  | unparsable (path : String)
  | invalid (faults : List TermFault)
  deriving Repr, DecidableEq

/-- The wording of a fault. What the parser has to say is left out. -/
def ConfigFault.message : ConfigFault → String
  | unreadable path fault =>
    s!"Failed to read config file {path}: {(FilterError.file fault).message}: {fault.message}"
  | unparsable path => s!"Failed to parse config file {path}:"
  | invalid faults => faultReport faults

def Config.ofYaml? (text : String) : Option Config := do
  let d ← Yaml.parse text
  Config.decode d.format d.root

def Config.load (t : FileTree) (folder : Location) (path : String) : Except ConfigFault Config :=
  match t.read folder path with
  | .error fault => .error (.unreadable path fault)
  | .ok text =>
    match Config.ofYaml? text with
    | none => .error (.unparsable path)
    | some c =>
      match c.validate with
      | .ok () => .ok c
      | .error faults => .error (.invalid faults)

def joinPath (a b : String) : String :=
  if a = "" ∨ a.toList.getLast? = some '/' then a ++ b else a ++ "/" ++ b

/-- The places where a user's configuration may be, the first one to be preferred. Which of them
exists is not asked here. -/
def candidatePaths (home configFolder : Option String) : List String :=
  (home.map fun p => joinPath (joinPath p ".termfilter") "config.yaml").toList ++
    (configFolder.map fun p => joinPath (joinPath p "termfilter") "config.yaml").toList

end Expurgate
