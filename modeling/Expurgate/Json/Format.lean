import Expurgate.Config.Format
import Expurgate.Json.Basic

/-!
How typed values are read from JSON.
-/

namespace Expurgate.Json

def present : Json → Option Json
  | null => none
  | v => some v

def text? : Json → Option String
  | text s => some s
  | _ => none

def flag? : Json → Option Bool
  | flag b => some b
  | _ => none

/-- The number of an integer that is neither negative nor too large. -/
def count? : Json → Option Nat
  | integer n => if 0 ≤ n ∧ n.toNat < Format.countLimit then some n.toNat else none
  | _ => none

/-- The name of a choice, which may also stand as the only field of an object, over null. -/
def name? : Json → Option String
  | text s => some s
  | object [(s, null)] => some s
  | _ => none

def list? : Json → Option (List Json)
  | list l => some l
  | _ => none

/-- The fields of an object. A list gives the fields by position and may not be too long. Fields
that are not known are passed over. -/
def record? (names : List String) : Json → Option (List (String × Json))
  | object fields => some (fields.filter fun f => names.contains f.1)
  | list values => if values.length ≤ names.length then some (names.zip values) else none
  | _ => none

def texts? : Json → Option (List String)
  | text s => some [s]
  | list l => l.mapM text?
  | _ => none

def format : Format Json where
  present v := some v.present
  text := text?
  flag := flag?
  count := count?
  name := name?
  list := list?
  record := record?
  texts := texts?

end Expurgate.Json
