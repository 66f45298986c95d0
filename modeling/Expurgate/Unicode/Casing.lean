import Expurgate.Unicode.CharClass
import Expurgate.Unicode.Table.CaseMap

/-!
Upper and lower case of whole texts. One character may become several, and a capital sigma becomes
the final form at the end of a word.
-/

namespace Expurgate.Unicode

def upperChar (c : Char) : List Char :=
  match Table.upperExpanding.find? (·.1 = c.toNat) with
  | some (_, forms) => forms.map Char.ofNat
  | none => [Char.ofNat (CaseRun.map Table.upper c.toNat)]

/-- The lower case form of a character that stands alone. -/
def lowerChar (c : Char) : List Char :=
  if c = 'İ' then ['i', '\u0307'] else [Char.ofNat (CaseRun.map Table.lower c.toNat)]

/-- Whether the first character that is not passed over has a case. -/
def meetsCased (s : List Char) : Bool :=
  match s.dropWhile isCaseIgnorable with
  | [] => false
  | c :: _ => isCased c

/-- Lower case of a text, given the characters before it, the nearest first. A capital sigma with a
cased letter before it and none after it takes its final form. -/
def lowerAfter (before : List Char) : List Char → List Char
  | [] => []
  | c :: rest =>
    (if c = 'Σ' then [if meetsCased before && !meetsCased rest then 'ς' else 'σ'] else lowerChar c)
      ++ lowerAfter (c :: before) rest

def toLower (s : String) : String := String.ofList (lowerAfter [] s.toList)

def toUpper (s : List Char) : List Char := s.flatMap upperChar

end Expurgate.Unicode
