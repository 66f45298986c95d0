import Expurgate.Unicode.Segmentation
import Expurgate.Unicode.Table.Age
import Expurgate.Unicode.Table.ScriptExtension

/-!
What `\p{..}` in a pattern stands for: a set of characters asked for by the name of a property, or by
a property together with one of its values.
-/

namespace Expurgate.Unicode

/-- What a pattern asks for: a bare name, or a property together with its value. -/
inductive PropertyQuery where
  | name (name : String)
  | value (property value : String)
  deriving Repr, DecidableEq

/-- The characters that a version of the character set knows, those of the earlier versions
included. -/
def age? (version : String) : Option Ranges :=
  let (earlier, rest) := Table.ages.span fun s => !s.names.contains version
  rest.head?.map fun s => Ranges.ofList ((earlier ++ [s]).flatMap NamedRanges.ranges)

/-- The characters that a query stands for. A bare name is a binary property, a general category or
a script, in that order; three names that are also short for a property are categories. -/
def PropertyQuery.ranges? : PropertyQuery → Option Ranges
  | .name s =>
    let name := looseName s
    let property := if ["cf", "sc", "lc"].contains name then none else binary? name
    property.or ((category? name).or
      ((NamedRanges.find? Table.scripts name).map NamedRanges.ranges))
  | .value p v =>
    let property := looseName p
    let value := looseName v
    if ["gc", "generalcategory"].contains property then category? value
    else if property = "age" then age? value
    else if ["gcb", "graphemeclusterbreak"].contains property then GraphemeBreak.ranges? value
    else if ["wb", "wordbreak"].contains property then WordBreak.ranges? value
    else if ["sb", "sentencebreak"].contains property then SentenceBreak.ranges? value
    else if ["sc", "script"].contains property then
      (NamedRanges.find? Table.scripts value).map NamedRanges.ranges
    else if ["scx", "scriptextensions"].contains property then
      (NamedRanges.find? Table.scriptExtensions value).map NamedRanges.ranges
    else none

end Expurgate.Unicode
