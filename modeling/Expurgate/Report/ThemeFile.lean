import Expurgate.Report.Theme
import Expurgate.Files
import Expurgate.Yaml.Format

/-!
Themes in files: the colours of some parts of the output.
-/

namespace Expurgate.Theme

/-- The colour that a part is given, if it is given one. -/
def decodeStyle (d : Yaml.Document) (n : Yaml.Node) : Option (Option Colour) := do
  let fields ← d.record ["fg"] n
  readField fields "fg" (d.format.optional fun v => (d.text v).bind Colour.ofName?) none

/-- Reads a theme. Every entry must be known. -/
def decode (d : Yaml.Document) : Option Theme := do
  let entries ← (← d.fields d.root).mapM fun (k, v) => do
    let e ← (d.name k).bind ThemeEntry.ofName?
    let colour ← decodeStyle d v
    return (e, colour)
  return .ofEntries entries

def ofYaml? (text : String) : Option Theme := (Yaml.parse text).bind decode

inductive Fault where
  | unreadable (path : String) (fault : FileFault)
  | unparsable (path : String)
  deriving Repr, DecidableEq

/-- The wording of a fault. What the parser has to say is left out. -/
def Fault.message : Fault → String
  | unreadable path fault => s!"Failed to read theme file {path}: {fault.message}"
  | unparsable path => s!"Failed to parse theme file {path}:"

/-- The theme in a file, or the default one where no file is named. -/
def load (t : FileTree) (folder : Location) : Option String → Except Fault Theme
  | none => .ok default
  | some path =>
    match t.read folder path with
    | .error fault => .error (.unreadable path fault)
    | .ok text =>
      match ofYaml? text with
      | none => .error (.unparsable path)
      | some theme => .ok theme

end Expurgate.Theme
