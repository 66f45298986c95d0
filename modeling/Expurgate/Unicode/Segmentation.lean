import Expurgate.Unicode.Property
import Expurgate.Unicode.Table.Script
import Expurgate.Unicode.Table.Segmentation

/-!
The three properties by which a text is divided: into grapheme clusters, into words and into
sentences. Each has a value for every kind of neighbour that matters to a division. Most values
follow from categories and binary properties, less the characters that an earlier value claims.
-/

namespace Expurgate.Unicode

def scriptRanges (name : String) : Ranges :=
  match NamedRanges.find? Table.scripts name with
  | some s => s.ranges
  | none => []

/-- Marks that go with the character in front of them, whatever width they have. -/
def attached : Ranges :=
  (listedRanges "graphemeextend").union ((categoryRanges "mc").union (listedRanges "emod"))

/-- Digits, and the marks that enclose the digits behind them. The abbreviation mark of the Syriac
script encloses letters instead. -/
def digits : Ranges :=
  (categoryRanges "nd").union
    (((listedRanges "pcm").diff [(0x70F, 0x70F)]).union [(0x66B, 0x66B)])

/-- Hangul syllables that consist of a leading consonant and a vowel: every 28th one. -/
def openSyllables : Ranges := (List.range 399).map fun k => (0xAC00 + 28 * k, 0xAC00 + 28 * k)

namespace GraphemeBreak

/-- Signs that belong to the character behind them. -/
def prepend : Ranges := (listedRanges "pcm").union Table.clusterOpeners.ranges

/-- Marks without a width of their own, and the modifiers of skin colour. -/
def extend : Ranges := (listedRanges "graphemeextend").union (listedRanges "emod")

/-- Control characters, and unassigned ones that are ignored by default. -/
def control : Ranges :=
  let unassigned := assigned.complement.inter (listedRanges "di")
  let controls := (categoriesRanges ["zl", "zp", "cc", "cf"]).union unassigned
  controls.diff (Ranges.ofList
    ([(0xA, 0xA), (0xD, 0xD), (0x200C, 0x200D)] ++ listedRanges "pcm" ++
      listedRanges "graphemeextend"))

/-- Marks with a width of their own. -/
def spacingMark : Ranges :=
  ((categoryRanges "mc").union Table.vowelLetters.ranges).diff
    (extend.union Table.detachedMarks.ranges)

def ranges? (name : String) : Option Ranges :=
  if ["control", "cn"].contains name then some control
  else if ["extend", "ex"].contains name then some extend
  else if ["regionalindicator", "ri"].contains name then some (listedRanges "ri")
  else if ["prepend", "pp"].contains name then some prepend
  else if ["spacingmark", "sm"].contains name then some spacingMark
  else if name = "lv" then some openSyllables
  else if name = "lvt" then some (Ranges.diff [(0xAC00, 0xD7A3)] openSyllables)
  else (NamedRanges.find? Table.graphemeBreaks name).map NamedRanges.ranges

end GraphemeBreak

namespace WordBreak

/-- Marks that are passed over inside a word. -/
def extend : Ranges := attached.diff [(0x200D, 0x200D)]

/-- Invisible signs that are passed over inside a word. -/
def format : Ranges :=
  (categoryRanges "cf").diff
    (Ranges.ofList ([(0x200B, 0x200D)] ++ GraphemeBreak.prepend ++ extend))

/-- The katakana and what goes with them. -/
def katakana : Ranges := (scriptRanges "katakana").union Table.katakanaSigns.ranges

def hebrewLetter : Ranges := (scriptRanges "hebrew").inter (categoryRanges "lo")

/-- Letters of the alphabets in which words are set off by spaces. -/
def alphabeticLetter : Ranges :=
  (Table.alphabetic.union Table.wordSigns.ranges).diff (Ranges.ofList
    (listedRanges "ideographic" ++ katakana ++ Table.unspacedLetters.ranges ++
      scriptRanges "hiragana" ++ extend ++ hebrewLetter))

def ranges? (name : String) : Option Ranges :=
  if name = "extend" then some extend
  else if ["format", "fo"].contains name then some format
  else if ["regionalindicator", "ri"].contains name then some (listedRanges "ri")
  else if ["katakana", "ka"].contains name then some katakana
  else if ["hebrewletter", "hl"].contains name then some hebrewLetter
  else if ["aletter", "le"].contains name then some alphabeticLetter
  else if ["numeric", "nu"].contains name then some digits
  else if ["extendnumlet", "ex"].contains name then
    some ((categoryRanges "pc").union [(0x202F, 0x202F)])
  else if name = "wsegspace" then
    some ((categoryRanges "zs").diff [(0xA0, 0xA0), (0x2007, 0x2007), (0x202F, 0x202F)])
  else (NamedRanges.find? Table.wordBreaks name).map NamedRanges.ranges

end WordBreak

namespace SentenceBreak

/-- Marks that are passed over inside a sentence. -/
def extend : Ranges :=
  Ranges.ofList (listedRanges "graphemeextend" ++ [(0x200D, 0x200D)] ++ categoryRanges "mc")

/-- Digits as a sentence counts them; the Arabic separator of thousands is one of them. -/
def numeric : Ranges := digits.union [(0x66C, 0x66C)]

/-- Invisible signs that are passed over inside a sentence. -/
def format : Ranges :=
  (categoryRanges "cf").diff (Ranges.ofList ([(0x200C, 0x200D)] ++ numeric ++ extend))

/-- Letters in lower case, of the alphabets where case tells how a sentence begins. -/
def lower : Ranges :=
  Table.lowercase.diff ((listedRanges "graphemeextend").union Table.georgianLetters.ranges)

/-- Letters in upper or title case, of the same alphabets. -/
def upper : Ranges :=
  (Table.uppercase.union (categoryRanges "lt")).diff Table.georgianLetters.ranges

def otherLetter : Ranges :=
  (Table.alphabetic.union [(0x5F3, 0x5F3)]).diff (Ranges.ofList (lower ++ upper ++ extend))

/-- Full stops, which may stand inside a sentence as well. -/
def fullStop : Ranges :=
  match NamedRanges.find? Table.sentenceBreaks "aterm" with
  | some s => s.ranges
  | none => []

/-- Marks that end a sentence wherever they stand. -/
def terminator : Ranges := (listedRanges "sterm").diff fullStop

def close : Ranges :=
  ((categoriesRanges ["ps", "pe", "pi", "pf"]).union Table.plainQuotes.ranges).diff
    (Ranges.ofList ([(0x5F3, 0x5F3)] ++ fullStop ++ terminator))

/-- Spaces, less what ends a line or a paragraph. -/
def space : Ranges :=
  Table.space.diff [(0xA, 0xA), (0xD, 0xD), (0x85, 0x85), (0x2028, 0x2029)]

def ranges? (name : String) : Option Ranges :=
  if ["extend", "ex"].contains name then some extend
  else if ["format", "fo"].contains name then some format
  else if name = "sp" then some space
  else if ["lower", "lo"].contains name then some lower
  else if ["upper", "up"].contains name then some upper
  else if ["oletter", "le"].contains name then some otherLetter
  else if ["numeric", "nu"].contains name then some numeric
  else if ["sterm", "st"].contains name then some terminator
  else if ["close", "cl"].contains name then some close
  else (NamedRanges.find? Table.sentenceBreaks name).map NamedRanges.ranges

end SentenceBreak

end Expurgate.Unicode
