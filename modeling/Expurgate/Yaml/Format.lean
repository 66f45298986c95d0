import Expurgate.Config.Format
import Expurgate.Yaml.Plain

/-!
How typed values are read from YAML. Where a text is expected, any scalar gives its own characters;
only where a single text and a list are told apart does a plain scalar keep the kind it has by
itself. An empty node counts as an empty text, list or record.
-/

namespace Expurgate.Yaml

def standardTag (name : String) : String := "tag:yaml.org,2002:" ++ name

def localTag? (tag : Option String) : Option String :=
  match tag.map String.toList with
  | some ['!'] => some "!"
  | some ('!' :: name) => some (String.ofList name)
  | _ => none

/-- Whether a scalar may be read as a flag or number: a plain one, or a block tagged as such. -/
def hasKind (kind : String) (style : ScalarStyle) (tag : Option String) : Bool :=
  style = .plain || style = .literal && tag = some (standardTag kind)

namespace Document

variable (d : Document)

def resolve : Node → Node
  | .alias i => (d.anchored.lookup i).getD (.alias i)
  | n => n

/-- The node itself, unless it stands for nothing. A node that is tagged as nothing has to be so. -/
def present (n : Node) : Option (Option Node) :=
  match d.resolve n with
  | .void => some none
  | .scalar text .plain none => some (if text.isEmpty || isNullText text then none else some n)
  | .scalar text .plain (some tag) =>
    if tag = standardTag "null" then if isNullText text then some none else none
    else some (some n)
  | _ => some (some n)

def text (n : Node) : Option String :=
  match d.resolve n with
  | .scalar text _ _ => some text
  | _ => none

def flag (n : Node) : Option Bool :=
  match d.resolve n with
  | .scalar text style tag => if hasKind "bool" style tag then flagOfText text else none
  | _ => none

def count (n : Node) : Option Nat :=
  match d.resolve n with
  | .scalar text style tag =>
    if hasKind "int" style tag then naturalOfText Format.countLimit text.toList else none
  | _ => none

/-- The name of a choice: a scalar, or the document's own tag over nothing. -/
def name (n : Node) : Option String :=
  match d.resolve n with
  | .scalar text style tag =>
    match localTag? tag with
    | some name =>
      if style = .plain && (text.isEmpty || isNullText text) then some name else none
    | none => some text
  | _ => none

def isEmptyNode : Node → Bool
  | .void => true
  | .scalar text style _ => text.isEmpty && style = .plain
  | _ => false

def list (n : Node) : Option (List Node) :=
  match d.resolve n with
  | .sequence items _ => some items
  | n => if isEmptyNode n then some [] else none

def fields (n : Node) : Option (List (Node × Node)) :=
  match d.resolve n with
  | .mapping fields _ => some fields
  | n => if isEmptyNode n then some [] else none

/-- The known fields of a mapping, none of which may be repeated. All keys have to be scalars. -/
def record (names : List String) (n : Node) : Option (List (String × Node)) := do
  let all ← (← d.fields n).mapM fun (k, v) => (d.text k).map fun k => (k, v)
  let known := all.filter fun f => names.contains f.1
  if (known.map (·.1)).Nodup then some known else none

def ownText (n : Node) : Option String :=
  match d.resolve n with
  | .scalar text .plain none => if isPlainText text then some text else none
  | .scalar text _ none => some text
  | .scalar text _ (some tag) =>
    let kinds := ["null", "bool", "int", "float"].map standardTag
    if kinds.contains tag || (localTag? (some tag)).isSome then none else some text
  | _ => none

def texts (n : Node) : Option (List String) :=
  match d.resolve n with
  | .sequence items tag =>
    if (localTag? tag).isSome then none else items.mapM d.ownText
  | n => (d.ownText n).map ([·])

def format : Format Node where
  present := d.present
  text := d.text
  flag := d.flag
  count := d.count
  name := d.name
  list := d.list
  record := d.record
  texts := d.texts

end Document

end Expurgate.Yaml
