/-!
JSON values. The fields of an object keep their order.
-/

namespace Expurgate

inductive Json where
  | null
  | flag (value : Bool)
  /-- A number written without fraction or exponent. -/
  | integer (value : Int)
  /-- Any other number, as it is written. -/
  | decimal (digits : String)
  | text (value : String)
  | list (values : List Json)
  | object (fields : List (String × Json))
  deriving Repr, Inhabited

namespace Json

def ofOption {α : Type} (encode : α → Json) : Option α → Json
  | none => null
  | some a => encode a

def texts (l : List String) : Json := list (l.map text)

def count (n : Nat) : Json := integer n

end Json

end Expurgate
