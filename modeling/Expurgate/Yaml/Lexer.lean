import Expurgate.Yaml.Token

/-!
Dividing a YAML text into tokens. Where an implicit key begins is known only when the colon behind
it is found; the tokens that mark such keys are noted beside the others and put in their places at
the end.
-/

namespace Expurgate.Yaml

/-- A place where an implicit key may have begun. Whether it did is known only when a colon is met,
and the token of the key is then put in its place. -/
structure KeyStart where
  /-- The number of the token that comes first in the key. -/
  number : Nat
  /-- Whether the indentation leaves no other choice. -/
  required : Bool
  line : Nat
  column : Nat
  index : Nat
  deriving Repr

def maxKeyLength : Nat := 1024

/-- A text of which a part has been divided into tokens. -/
structure Lexer where
  cursor : Cursor
  /-- The columns of the blocks around the cursor, the innermost first. -/
  indents : List Nat
  /-- Whether an implicit key may begin here. -/
  keyAllowed : Bool
  /-- The possible key of the block, which is the last one, and of each bracket around the cursor.
  -/
  keys : List (Option KeyStart)
  tokens : Array Token
  /-- The numbers of the tokens that begin implicit keys, and whether a block begins there too. -/
  inserted : List (Nat × Bool)
  finished : Bool

namespace Lexer

def start (text : List Char) : Lexer :=
  ⟨.start text, [], true, [none], #[], [], false⟩

def flow (l : Lexer) : Bool := 1 < l.keys.length

/-- The column of the innermost block, or -1 at the top. -/
def indent (l : Lexer) : Int := (l.indents.head?.map Int.ofNat).getD (-1)

def push (l : Lexer) (t : Token) : Lexer := { l with tokens := l.tokens.push t }

def pushPast (l : Lexer) (n : Nat) (t : Token) : Lexer :=
  { l with cursor := l.cursor.advance n, tokens := l.tokens.push t }

/-- Gives up the possible keys that are too far back. A required one may not be given up. A key that
is written without a mark must stand on one line and be short. -/
def dropStale (l : Lexer) : Option Lexer := do
  let keys ← l.keys.mapM fun
    | none => some none
    | some k =>
      if k.line < l.cursor.line || k.index + maxKeyLength < l.cursor.index then
        if k.required then none else some none
      else some (some k)
  return { l with keys }

def dropKey (l : Lexer) : Option Lexer :=
  match l.keys with
  | some k :: rest => if k.required then none else some { l with keys := none :: rest }
  | _ => some l

def noteKey (l : Lexer) : Option Lexer :=
  if l.keyAllowed then do
    let l ← l.dropKey
    let c := l.cursor
    let key : KeyStart :=
      ⟨l.tokens.size, !l.flow && l.indent = c.column, c.line, c.column, c.index⟩
    some { l with keys := some key :: l.keys.drop 1 }
  else some l

def roll (l : Lexer) (column : Nat) (t : Token) : Lexer :=
  if !l.flow && l.indent < column then { l.push t with indents := column :: l.indents } else l

def unroll (l : Lexer) (column : Int) : Lexer :=
  if l.flow then l
  else
    let ended := l.indents.takeWhile fun (i : Nat) => column < (i : Int)
    { l with
      indents := l.indents.drop ended.length
      tokens := l.tokens ++ (ended.map fun _ => Token.blockEnd).toArray }

/-- Passes blanks, comments and line breaks between tokens. Tabs may not stand where they could be
taken for indentation. -/
def skipSpace : Nat → Lexer → Lexer
  | 0, l => l
  | fuel + 1, l =>
    let tabs := l.flow || !l.keyAllowed
    let c := (l.cursor.takeWhile fun x => x = ' ' || (tabs && x = '\t')).2.skipComment
    match c.lineBreak? with
    | some (_, c) => skipSpace fuel { l with cursor := c, keyAllowed := l.keyAllowed || !l.flow }
    | none => { l with cursor := c }

def endStream (l : Lexer) : Option Lexer := do
  let l ← (l.unroll (-1)).dropKey
  return { l.push .streamEnd with keyAllowed := false, finished := true }

/-- Adds a token that belongs to a document as a whole. -/
def outer (l : Lexer) (scan : Cursor → Option (Token × Cursor)) : Option Lexer := do
  let l ← (l.unroll (-1)).dropKey
  let (t, c) ← scan l.cursor
  return { l.push t with cursor := c, keyAllowed := false }

def openBracket (l : Lexer) (t : Token) : Option Lexer := do
  let l ← l.noteKey
  return { l.pushPast 1 t with keys := none :: l.keys, keyAllowed := true }

def closeBracket (l : Lexer) (t : Token) : Option Lexer := do
  let l ← l.dropKey
  return { l.pushPast 1 t with
    keys := if l.flow then l.keys.drop 1 else l.keys
    keyAllowed := false }

def flowEntry (l : Lexer) : Option Lexer := do
  let l ← l.dropKey
  return { l.pushPast 1 .flowEntry with keyAllowed := true }

def blockEntry (l : Lexer) : Option Lexer :=
  if !l.flow && !l.keyAllowed then none
  else do
    let l ← (l.roll l.cursor.column .blockSequenceStart).dropKey
    return { l.pushPast 1 .blockEntry with keyAllowed := true }

def explicitKey (l : Lexer) : Option Lexer :=
  if !l.flow && !l.keyAllowed then none
  else do
    let l ← (l.roll l.cursor.column .blockMappingStart).dropKey
    return { l.pushPast 1 .key with keyAllowed := !l.flow }

/-- Passes the colon of a value. If a key may have begun before it, one did. -/
def keyValue (l : Lexer) : Option Lexer :=
  match l.keys with
  | some k :: rest =>
    let begins := !l.flow && l.indent < k.column
    some { l.pushPast 1 .value with
      indents := if begins then k.column :: l.indents else l.indents
      inserted := (k.number, begins) :: l.inserted
      keys := none :: rest
      keyAllowed := false }
  | _ =>
    if !l.flow && !l.keyAllowed then none
    else
      let l := l.roll l.cursor.column .blockMappingStart
      some { l.pushPast 1 .value with keyAllowed := !l.flow }

/-- Adds a token that may begin a key, such as an anchor, a tag or a scalar. -/
def content (l : Lexer) (scan : Cursor → Option (Token × Bool × Cursor)) : Option Lexer := do
  let l ← l.noteKey
  let (t, keyAllowed, c) ← scan l.cursor
  return { l.push t with cursor := c, keyAllowed := keyAllowed }

def named (l : Lexer) (token : List Char → Token) : Option Lexer :=
  l.content fun c => (scanAnchorName (c.advance 1)).map fun (name, c) => (token name, false, c)

def tag (l : Lexer) : Option Lexer :=
  l.content fun c => do
    let (t, after) ← scanTag c
    if after.blankAt 0 || l.flow && after.isAt ',' then some (t, false, after) else none

def blockScalar (l : Lexer) (literal : Bool) : Option Lexer := do
  let l ← l.dropKey
  let (text, c) ← scanBlock literal l.indent (l.cursor.advance 1)
  let style := if literal then ScalarStyle.literal else .quoted
  return { l.push (.scalar text style) with cursor := c, keyAllowed := true }

def quotedScalar (l : Lexer) (single : Bool) : Option Lexer :=
  l.content fun c =>
    (scanQuoted single (c.left + 1) [] (c.advance 1)).map fun (text, c) =>
      (.scalar text .quoted, false, c)

def plainScalar (l : Lexer) : Option Lexer :=
  l.content fun c =>
    (scanPlain l.flow (l.indent + 1).toNat (c.left + 1) [] (.empty false) c).map
      fun (text, broken, c) => (.scalar text .plain, broken, c)

def beginsPlain (l : Lexer) (x : Char) : Bool :=
  let indicators :=
    ['-', '?', ':', ',', '[', ']', '{', '}', '#', '&', '*', '!', '|', '>', '\'', '"', '%', '@', '`']
  !(isBlank x || isBreak x || indicators.contains x)
    || (x = '-' && !(l.cursor.at? 1).any isBlank)
    || (!l.flow && (x = '?' || x = ':') && !l.cursor.blankAt 1)

def next (l : Lexer) : Option Lexer := do
  let l ← (skipSpace (l.cursor.left + 1) l).dropStale
  let l := l.unroll l.cursor.column
  let c := l.cursor
  match c.rest.head? with
  | none => l.endStream
  | some x =>
    if c.column = 0 && x = '%' then l.outer fun c => scanDirective (c.advance 1)
    else if c.atDocumentMark then
      l.outer fun c => some (if x = '-' then .documentStart else .documentEnd, c.advance 3)
    else if x = '[' then l.openBracket .flowSequenceStart
    else if x = '{' then l.openBracket .flowMappingStart
    else if x = ']' then l.closeBracket .flowSequenceEnd
    else if x = '}' then l.closeBracket .flowMappingEnd
    else if x = ',' then l.flowEntry
    else if x = '-' && c.blankAt 1 then l.blockEntry
    else if x = '?' && (l.flow || c.blankAt 1) then l.explicitKey
    else if x = ':' && (l.flow || c.blankAt 1) then l.keyValue
    else if x = '*' then l.named .alias
    else if x = '&' then l.named .anchor
    else if x = '!' then l.tag
    else if x = '|' && !l.flow then l.blockScalar true
    else if x = '>' && !l.flow then l.blockScalar false
    else if x = '\'' then l.quotedScalar true
    else if x = '"' then l.quotedScalar false
    else if l.beginsPlain x then l.plainScalar
    else none

def run : Nat → Lexer → Option Lexer
  | 0, _ => none
  | fuel + 1, l => if l.finished then some l else l.next.bind (run fuel)

/-- The tokens with those that begin implicit keys in their places. -/
def allTokens (l : Lexer) : List Token :=
  let marks := l.inserted.foldl (fun marks (i, begins) => marks.setIfInBounds i (some begins))
    (Array.replicate l.tokens.size none)
  (l.tokens.toList.zip marks.toList).flatMap fun (t, mark) =>
    match mark with
    | some true => [.blockMappingStart, .key, t]
    | some false => [.key, t]
    | none => [t]

end Lexer

/-- The tokens of a text. A byte order mark may stand in front of it. -/
def tokenize (text : String) : Option (List Token) :=
  let chars := text.toList
  let chars := if chars.head? = some '\uFEFF' then chars.drop 1 else chars
  if chars.all isPrintable then
    (Lexer.run (chars.length + 2) (.start chars)).map Lexer.allTokens
  else none

end Expurgate.Yaml
