import Expurgate.Yaml.Scalar

/-!
The tokens of a YAML text. Indentation shows as the starts and ends of blocks.
-/

namespace Expurgate.Yaml

inductive Token where
  | versionDirective (major minor : Nat)
  /-- A handle for tags, and what it stands for. -/
  | tagDirective (handle stem : List Char)
  | documentStart
  | documentEnd
  | streamEnd
  | blockSequenceStart
  | blockMappingStart
  | blockEnd
  | flowSequenceStart
  | flowSequenceEnd
  | flowMappingStart
  | flowMappingEnd
  | blockEntry
  | flowEntry
  | key
  | value
  | alias (name : List Char)
  | anchor (name : List Char)
  | tag (handle suffix : List Char)
  | scalar (text : List Char) (style : ScalarStyle)
  deriving Repr, DecidableEq

/-- A character that may stand in a tag. Commas and square brackets may do so between angle brackets
only. -/
def isTagChar (verbatim : Bool) (c : Char) : Bool :=
  isNameChar c || [';', '/', '?', ':', '@', '&', '=', '+', '$', '.', '%', '!', '~', '*', '\'', '(',
    ')'].contains c || (verbatim && [',', '[', ']'].contains c)

/-- The bytes of a character, of which the first one tells how many there are. -/
def encodedLength (first : Nat) : Option Nat :=
  if first < 0x80 then some 1
  else if 0xC0 ≤ first ∧ first < 0xE0 then some 2
  else if 0xE0 ≤ first ∧ first < 0xF0 then some 3
  else if 0xF0 ≤ first ∧ first < 0xF8 then some 4
  else none

def escapedByte : List Char → Option Nat
  | '%' :: a :: b :: _ => hexValue [a, b]
  | _ => none

/-- The further bytes of a character, each behind a percent sign, joined to what came before. -/
def escapedTail : Nat → Nat → List Char → Option Nat
  | 0, n, _ => some n
  | count + 1, n, rest => do
    let byte ← escapedByte rest
    if 0x80 ≤ byte ∧ byte < 0xC0 then escapedTail count (64 * n + (byte - 0x80)) (rest.drop 3)
    else none

/-- A character whose bytes stand behind percent signs, and how many characters that takes. -/
def escapedChar (rest : List Char) : Option (Char × Nat) := do
  let first ← escapedByte rest
  let length ← encodedLength first
  let lead := if length = 1 then first else first % (1 <<< (7 - length))
  let value ← escapedTail (length - 1) lead (rest.drop 3)
  return (Char.ofNat value, 3 * length)

def scanTagText (verbatim : Bool) : Nat → List Char → Cursor → Option (List Char × Cursor)
  | 0, _, _ => none
  | fuel + 1, text, c =>
    match c.rest.head? with
    | none => some (text, c)
    | some x =>
      if x = '%' then
        match escapedChar c.rest with
        | some (y, n) => scanTagText verbatim fuel (text ++ [y]) (c.advance n)
        | none => none
      else if isTagChar verbatim x then scanTagText verbatim fuel (text ++ [x]) (c.advance 1)
      else some (text, c)

def scanTagPart (verbatim : Bool) (c : Cursor) : Option (List Char × Cursor) := do
  let (text, after) ← scanTagText verbatim (c.left + 1) [] c
  if after.index = c.index then none else some (text, after)

/-- A handle: an exclamation mark, or two of them around a name that may be empty. -/
def scanTagHandle (c : Cursor) : Option (List Char × Cursor) :=
  if c.isAt '!' then
    let (name, c) := (c.advance 1).takeWhile isNameChar
    if c.isAt '!' then some ('!' :: name ++ ['!'], c.advance 1) else some ('!' :: name, c)
  else none

/-- A tag, as a handle and what follows it. -/
def scanTag (c : Cursor) : Option (Token × Cursor) :=
  if c.at? 1 = some '<' then do
    let (suffix, c) ← scanTagPart true (c.advance 2)
    if c.isAt '>' then some (.tag [] suffix, c.advance 1) else none
  else do
    let (handle, c) ← scanTagHandle c
    if 2 ≤ handle.length ∧ handle.getLast? = some '!' then
      let (suffix, c) ← scanTagPart false c
      some (.tag handle suffix, c)
    else
      let (more, c) ← scanTagText false (c.left + 1) [] c
      let suffix := handle.drop 1 ++ more
      some (if suffix.isEmpty then .tag [] ['!'] else .tag ['!'] suffix, c)

/-- The name of an anchor or alias, which may be followed by certain characters only. -/
def scanAnchorName (c : Cursor) : Option (List Char × Cursor) :=
  let (name, c) := c.takeWhile isNameChar
  let ended := c.rest.head?.all fun x =>
    isBlank x || isBreak x || ['?', ':', ',', ']', '}', '%', '@', '`'].contains x
  if name.isEmpty || !ended then none else some (name, c)

def scanVersionNumber (c : Cursor) : Option (Nat × Cursor) :=
  let (digits, c) := c.takeWhile Char.isDigit
  if digits.isEmpty || 9 < digits.length then none
  else some (digits.foldl (fun n d => 10 * n + (d.toNat - 48)) 0, c)

/-- The directive behind a percent sign, up to the end of its line. -/
def scanDirective (c : Cursor) : Option (Token × Cursor) := do
  let (name, c) := c.takeWhile isNameChar
  if name = ['Y', 'A', 'M', 'L'] && c.blankAt 0 then
    let (major, c) ← scanVersionNumber c.skipBlanks
    if c.isAt '.' then
      let (minor, c) ← scanVersionNumber (c.advance 1)
      let c ← c.endLine
      some (.versionDirective major minor, c)
    else none
  else if name = ['T', 'A', 'G'] && c.blankAt 0 then
    let (handle, c) ← scanTagHandle c.skipBlanks
    if handle ≠ ['!'] && handle.getLast? ≠ some '!' || !c.rest.head?.any isBlank then none
    else
      let (stem, c) ← scanTagPart true c.skipBlanks
      if c.blankAt 0 then
        let c ← c.endLine
        some (.tagDirective handle stem, c)
      else none
  else none

end Expurgate.Yaml
