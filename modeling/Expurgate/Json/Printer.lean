import Expurgate.Json.Basic

/-!
The indented text of a JSON value: two blanks for each level, one value or field a line, and empty
lists and objects on a line of their own parent.
-/

namespace Expurgate.Json

/-- The digits of a control character behind a backslash and a `u`. -/
def controlDigits (n : Nat) : List Char :=
  ['0', '0', Nat.digitChar (n / 16), Nat.digitChar (n % 16)]

/-- A character inside a quoted text. Only quotes, backslashes and control characters are escaped.
-/
def escape (c : Char) : List Char :=
  if c = '"' then ['\\', '"']
  else if c = '\\' then ['\\', '\\']
  else if c = '\n' then ['\\', 'n']
  else if c = '\r' then ['\\', 'r']
  else if c = '\t' then ['\\', 't']
  else if c.toNat = 8 then ['\\', 'b']
  else if c.toNat = 12 then ['\\', 'f']
  else if c.toNat < 32 then '\\' :: 'u' :: controlDigits c.toNat
  else [c]

def quote (s : String) : String := String.ofList ('"' :: s.toList.flatMap escape ++ ['"'])

def newline (level : Nat) : String := String.ofList ('\n' :: List.replicate (2 * level) ' ')

/-- Items between brackets, each on a line of its own. -/
def block (opening closing : String) (level : Nat) (items : List String) : String :=
  if items.isEmpty then opening ++ closing
  else
    opening ++ newline (level + 1) ++ String.intercalate ("," ++ newline (level + 1)) items
      ++ newline level ++ closing

mutual

def render (level : Nat) : Json → String
  | null => "null"
  | flag true => "true"
  | flag false => "false"
  | integer n => toString n
  | decimal digits => digits
  | text s => quote s
  | list values => block "[" "]" level (renderList (level + 1) values)
  | object fields => block "\x7b" "\x7d" level (renderFields (level + 1) fields)

def renderList (level : Nat) : List Json → List String
  | [] => []
  | v :: rest => render level v :: renderList level rest

def renderFields (level : Nat) : List (String × Json) → List String
  | [] => []
  | (name, v) :: rest => (quote name ++ ": " ++ render level v) :: renderFields level rest

end

def pretty (v : Json) : String := v.render 0

end Expurgate.Json
