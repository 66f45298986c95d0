/-!
Positions in a YAML text and the characters that matter there.
-/

namespace Expurgate.Yaml

def isBreak (c : Char) : Bool :=
  c = '\n' || c = '\r' || c = '\u0085' || c = '\u2028' || c = '\u2029'

def isBlank (c : Char) : Bool := c = ' ' || c = '\t'

def isNameChar (c : Char) : Bool := c.isAlphanum || c = '_' || c = '-'

def isPrintable (c : Char) : Bool :=
  let n := c.toNat
  n = 0x09 || n = 0x0A || n = 0x0D || (0x20 ≤ n && n ≤ 0x7E) || n = 0x85
    || (0xA0 ≤ n && n ≤ 0xFFFD && n ≠ 0xFEFF) || 0x10000 ≤ n

def isFlowIndicator (c : Char) : Bool := c = ',' || c = '[' || c = ']' || c = '{' || c = '}'

/-- A place in a text: what follows, and how much came before it. The column is kept apart from the
position, as indentation is what most of the rules ask for. -/
structure Cursor where
  rest : List Char
  /-- How many characters follow. -/
  left : Nat
  line : Nat
  column : Nat
  index : Nat
  deriving Repr

namespace Cursor

def start (text : List Char) : Cursor := ⟨text, text.length, 0, 0, 0⟩

def at? (c : Cursor) (i : Nat) : Option Char := c.rest[i]?

def isAt (c : Cursor) (x : Char) : Bool := c.rest.head? = some x

/-- Whether a blank, a line break or the end stands at a distance. -/
def blankAt (c : Cursor) (i : Nat) : Bool := (c.at? i).all fun x => isBlank x || isBreak x

def atEnd (c : Cursor) : Bool := c.rest.isEmpty

/-- Passes characters that are no line breaks. -/
def advance (c : Cursor) (n : Nat) : Cursor :=
  ⟨c.rest.drop n, c.left - n, c.line, c.column + n, c.index + n⟩

/-- Passes the longest run of characters of a class, which holds no line breaks. -/
def takeWhile (c : Cursor) (p : Char → Bool) : List Char × Cursor :=
  let run := c.rest.takeWhile p
  (run, c.advance run.length)

def skipBlanks (c : Cursor) : Cursor := (c.takeWhile isBlank).2

def skipComment (c : Cursor) : Cursor :=
  if c.isAt '#' then (c.takeWhile (!isBreak ·)).2 else c

/-- Passes a line break. The line and paragraph separators are kept apart, all others are one. -/
def lineBreak? (c : Cursor) : Option (Char × Cursor) :=
  match c.rest with
  | '\r' :: '\n' :: rest => some ('\n', ⟨rest, c.left - 2, c.line + 1, 0, c.index + 2⟩)
  | x :: rest =>
    if isBreak x then
      some (if x = '\u2028' || x = '\u2029' then x else '\n',
        ⟨rest, c.left - 1, c.line + 1, 0, c.index + 1⟩)
    else none
  | [] => none

/-- Passes the rest of a line on which nothing but blanks and a comment may follow. -/
def endLine (c : Cursor) : Option Cursor :=
  let c := c.skipBlanks.skipComment
  match c.lineBreak? with
  | some (_, c) => some c
  | none => if c.atEnd then some c else none

/-- Whether three dots or hyphens that stand for a document's end or start begin here. -/
def atDocumentMark (c : Cursor) : Bool :=
  c.column = 0 && (c.rest.take 3 = ['-', '-', '-'] || c.rest.take 3 = ['.', '.', '.'])
    && c.blankAt 3

end Cursor

end Expurgate.Yaml
