import Expurgate.Unicode.CharClass
import Expurgate.Unicode.Table.Category
import Expurgate.Unicode.Table.Property

/-!
Sets of characters by the name of a general category or of a binary property. Names are read
loosely: case, blanks, hyphens and underscores make no difference, and neither does a leading `is`.
-/

namespace Expurgate.Unicode

/-- The letters that count in a property name. -/
def looseChars (s : List Char) : List Char :=
  (s.filter fun c => c.toNat < 0x80 && c != ' ' && c != '_' && c != '-').map Char.toLower

def looseName (s : String) : String :=
  match s.toList with
  | a :: b :: rest =>
    if a.toLower = 'i' ∧ b.toLower = 's' then
      let name := looseChars rest
      if name = ['c'] then "isc" else String.ofList name
    else String.ofList (looseChars (a :: b :: rest))
  | s => String.ofList (looseChars s)

/-- The general categories that unite several others. -/
def categoryGroups : List (List String × List String) :=
  [(["l", "letter"], ["lu", "ll", "lt", "lm", "lo"]),
   (["lc", "casedletter"], ["lu", "ll", "lt"]),
   (["m", "mark", "combiningmark"], ["mn", "mc", "me"]),
   (["n", "number"], ["nd", "nl", "no"]),
   (["p", "punctuation", "punct"], ["pc", "pd", "ps", "pe", "pi", "pf", "po"]),
   (["s", "symbol"], ["sm", "sc", "sk", "so"]),
   (["z", "separator"], ["zs", "zl", "zp"])]

def categoryRanges (name : String) : Ranges :=
  match NamedRanges.find? Table.categories name with
  | some s => s.ranges
  | none => []

def assigned : Ranges :=
  Ranges.ofList ((0xD800, 0xDFFF) :: Table.categories.flatMap NamedRanges.ranges)

def category? (name : String) : Option Ranges :=
  if name = "any" then some [(0, Ranges.lastCodePoint)]
  else if name = "ascii" then some [(0, 0x7F)]
  else if name = "assigned" then some assigned
  else if ["cn", "unassigned"].contains name then some assigned.complement
  else if ["c", "other"].contains name then
    some (assigned.complement.union (Ranges.ofList (["cc", "cf", "co"].flatMap categoryRanges)))
  else
    match categoryGroups.find? (·.1.contains name) with
    | some (_, parts) => some (Ranges.ofList (parts.flatMap categoryRanges))
    | none => (NamedRanges.find? Table.categories name).map fun s => Ranges.ofList s.ranges

def categoriesRanges (names : List String) : Ranges := Ranges.ofList (names.flatMap categoryRanges)

/-- The characters of a binary property that has an entry in the table. -/
def listedRanges (name : String) : Ranges :=
  match NamedRanges.find? Table.properties name with
  | some s => s.ranges
  | none => []

/-- The characters with a binary property. A property whose name begins with "other" holds what its
namesake has beyond certain categories. -/
def binary? (name : String) : Option Ranges :=
  if ["alphabetic", "alpha"].contains name then some Table.alphabetic
  else if ["lowercase", "lower"].contains name then some Table.lowercase
  else if ["uppercase", "upper"].contains name then some Table.uppercase
  else if ["whitespace", "wspace", "space"].contains name then some Table.space
  else if name = "cased" then some Table.cased
  else if ["caseignorable", "ci"].contains name then some Table.caseIgnorable
  else if ["otheralphabetic", "oalpha"].contains name then
    some (Table.alphabetic.diff (categoriesRanges ["lu", "ll", "lt", "lm", "lo", "nl"]))
  else if ["otherlowercase", "olower"].contains name then
    some (Table.lowercase.diff (categoryRanges "ll"))
  else if ["otheruppercase", "oupper"].contains name then
    some (Table.uppercase.diff (categoryRanges "lu"))
  else if ["othermath", "omath"].contains name then
    some ((listedRanges "math").diff (categoryRanges "sm"))
  else if ["othergraphemeextend", "ogrext"].contains name then
    some ((listedRanges "graphemeextend").diff (categoriesRanges ["mn", "me"]))
  else (NamedRanges.find? Table.properties name).map NamedRanges.ranges

end Expurgate.Unicode
