/-!
Reading typed values out of documents. A format says how each kind of value is written; what a
configuration consists of is said once, for all formats.
-/

namespace Expurgate

/-- How the values of a document format are read. Each reader refuses values of another kind. A
value of another kind is an error and not converted. JSON and YAML differ in what they take for a
number or a text, and the readers of records are written for both. -/
structure Format (α : Type) where
  /-- The value itself, or nothing if it stands for nothing where something is optional. -/
  present : α → Option (Option α)
  text : α → Option String
  flag : α → Option Bool
  /-- A number that is not negative. -/
  count : α → Option Nat
  /-- The name of one of several choices. -/
  name : α → Option String
  list : α → Option (List α)
  /-- Those fields of a record that have one of the names. -/
  record : List String → α → Option (List (String × α))
  /-- A single text or a list of texts. -/
  texts : α → Option (List String)

namespace Format

variable {α β : Type} (F : Format α)

/-- The limit of counts, which fit into 64 bits. -/
def countLimit : Nat := 0x10000000000000000

/-- A text of exactly one character. -/
def character (doc : α) : Option Char :=
  match (F.text doc).map String.toList with
  | some [c] => some c
  | _ => none

def choice (ofName? : String → Option β) (doc : α) : Option β := (F.name doc).bind ofName?

def optional (read : α → Option β) (doc : α) : Option (Option β) := do
  match ← F.present doc with
  | none => return none
  | some doc => return some (← read doc)

def listOf (read : α → Option β) (doc : α) : Option (List β) := (F.list doc).bind (·.mapM read)

/-- A list of texts, of which a single one may stand alone. Empty texts are dropped. -/
def choices (doc : α) : Option (List String) :=
  ((F.optional F.texts doc).map (·.getD [])).map (·.filter (· ≠ ""))

end Format

/-- The field of that name, or the value that holds where the field is missing. -/
def readField {α β : Type} (fields : List (String × α)) (name : String) (read : α → Option β)
    (missing : β) : Option β :=
  match fields.lookup name with
  | none => some missing
  | some doc => read doc

end Expurgate
