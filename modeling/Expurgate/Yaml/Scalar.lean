import Expurgate.Yaml.Cursor

/-!
The text of scalars: plain, between quotes, and in blocks. Line breaks inside plain and quoted
scalars are folded: a single one is a space, and of several the first one is dropped.
-/

namespace Expurgate.Yaml

/-- How a scalar is written, as far as it matters for its meaning. A quoted scalar is always a text,
while a plain one may be a number, a flag or nothing. -/
inductive ScalarStyle where
  | plain
  /-- Between quotes, or in a block whose lines are joined. -/
  | quoted
  /-- In a block whose lines are kept. -/
  | literal
  deriving Repr, DecidableEq

structure Gap where
  /-- The blanks before the first line break. -/
  blanks : List Char
  /-- The first line break. -/
  first : Option Char
  /-- The other line breaks. -/
  others : List Char
  /-- Whether there is any line break, be it one that was escaped. -/
  broken : Bool
  /-- Whether a tab stands where only spaces may indent. -/
  strayTab : Bool

namespace Gap

/-- No white space yet; behind an escaped line break the gap counts as broken. -/
def empty (broken : Bool) : Gap := ⟨[], none, [], broken, false⟩

/-- What is left of the white space when the lines are joined. -/
def folded (g : Gap) : List Char :=
  if g.broken then
    if g.first = some '\n' then (if g.others.isEmpty then [' '] else g.others)
    else g.first.toList ++ g.others
  else g.blanks

end Gap

/-- Passes white space. Tabs before the column `indent` of a further line are noted. -/
def scanGap (indent : Nat) : Nat → Gap → Cursor → Gap × Cursor
  | 0, g, c => (g, c)
  | fuel + 1, g, c =>
    match c.rest.head? with
    | none => (g, c)
    | some x =>
      if isBlank x then
        let g := if g.broken then
            { g with strayTab := g.strayTab || (x = '\t' && c.column < indent) }
          else { g with blanks := g.blanks ++ [x] }
        scanGap indent fuel g (c.advance 1)
      else
        match c.lineBreak? with
        | none => (g, c)
        | some (b, c) =>
          let g := if g.broken then { g with others := g.others ++ [b] }
            else { g with first := some b, broken := true }
          scanGap indent fuel g c

/-- The characters of a plain scalar up to white space or an indicator that ends it. -/
def plainRun (flow : Bool) : List Char → Option (List Char)
  | [] => some []
  | x :: rest =>
    let blankNext := rest.head?.all fun y => isBlank y || isBreak y
    if isBlank x || isBreak x then some []
    else if flow && x = ':' && rest.head?.any (fun y => isFlowIndicator y || y = '?') then none
    else if x = ':' && blankNext || flow && isFlowIndicator x then some []
    else (plainRun flow rest).map (x :: ·)

/-- Scans a plain scalar whose further lines are indented to `indent` at least. Tells whether it
ends behind a line break. -/
def scanPlain (flow : Bool) (indent : Nat) :
    Nat → List Char → Gap → Cursor → Option (List Char × Bool × Cursor)
  | 0, _, _, _ => none
  | fuel + 1, text, gap, c =>
    if c.atDocumentMark || c.isAt '#' then some (text, gap.broken, c)
    else do
      let run ← plainRun flow c.rest
      let c := c.advance run.length
      let (text, gap) := if run.isEmpty then (text, gap)
        else (text ++ gap.folded ++ run, .empty false)
      if c.rest.head?.any fun x => isBlank x || isBreak x then
        let (gap, c) := scanGap indent c.left gap c
        if gap.strayTab then none
        else if !flow && c.column < indent then some (text, gap.broken, c)
        else scanPlain flow indent fuel text gap c
      else some (text, gap.broken, c)

def hexValue (digits : List Char) : Option Nat :=
  digits.foldlM (fun n d =>
    if d.isDigit then some (16 * n + (d.toNat - 48))
    else if 'a' ≤ d ∧ d ≤ 'f' then some (16 * n + (d.toNat - 87))
    else if 'A' ≤ d ∧ d ≤ 'F' then some (16 * n + (d.toNat - 55))
    else none) 0

def simpleEscape (x : Char) : Option Char :=
  match x with
  | '0' => some '\x00'
  | 'a' => some '\x07'
  | 'b' => some '\x08'
  | 't' | '\t' => some '\t'
  | 'n' => some '\n'
  | 'v' => some '\x0b'
  | 'f' => some '\x0c'
  | 'r' => some '\r'
  | 'e' => some '\x1b'
  | ' ' => some ' '
  | '"' => some '"'
  | '/' => some '/'
  | '\\' => some '\\'
  | 'N' => some '\u0085'
  | '_' => some '\u00a0'
  | 'L' => some '\u2028'
  | 'P' => some '\u2029'
  | _ => none

def escapeDigits (x : Char) : Option Nat :=
  match x with
  | 'x' => some 2
  | 'u' => some 4
  | 'U' => some 8
  | _ => none

/-- The character that an escape behind a backslash stands for, and how many characters it takes. -/
def readEscape (rest : List Char) : Option (Char × Nat) := do
  let x ← rest.head?
  match simpleEscape x with
  | some y => some (y, 1)
  | none =>
    let n ← escapeDigits x
    let digits := (rest.drop 1).take n
    if digits.length < n then none
    else
      let value ← hexValue digits
      if h : value.isValidChar then some (Char.ofNatAux value h, n + 1) else none

/-- The characters of a quoted scalar up to white space or the closing quote. Tells whether an
escaped line break ended the run. -/
def quotedRun (single : Bool) : Nat → List Char → Cursor → Option (List Char × Bool × Cursor)
  | 0, _, _ => none
  | fuel + 1, text, c =>
    match c.rest with
    | [] => some (text, false, c)
    | x :: rest =>
      if isBlank x || isBreak x then some (text, false, c)
      else if single then
        if x = '\'' then
          if rest.head? = some '\'' then quotedRun single fuel (text ++ [x]) (c.advance 2)
          else some (text, false, c)
        else quotedRun single fuel (text ++ [x]) (c.advance 1)
      else if x = '"' then some (text, false, c)
      else if x = '\\' then
        match (c.advance 1).lineBreak? with
        | some (_, c) => some (text, true, c)
        | none =>
          match readEscape rest with
          | some (y, n) => quotedRun single fuel (text ++ [y]) (c.advance (n + 1))
          | none => none
      else quotedRun single fuel (text ++ [x]) (c.advance 1)

/-- Scans a quoted scalar behind its opening quote, up to and with the closing one. -/
def scanQuoted (single : Bool) : Nat → List Char → Cursor → Option (List Char × Cursor)
  | 0, _, _ => none
  | fuel + 1, text, c =>
    if c.atDocumentMark || c.atEnd then none
    else do
      let (text, escaped, c) ← quotedRun single (c.left + 1) text c
      if c.isAt (if single then '\'' else '"') then some (text, c.advance 1)
      else
        let (gap, c) := scanGap 0 c.left (.empty escaped) c
        scanQuoted single fuel (text ++ gap.folded) c

/-- Passes the indentation of a block and empty lines. While `indent` is 0 the block's indentation
is not known yet, and the widest one passed is found. -/
def blockBreaks (indent : Nat) :
    Nat → Nat → List Char → Cursor → Option (List Char × Nat × Cursor)
  | 0, _, _, _ => none
  | fuel + 1, widest, breaks, c =>
    let spaces := (c.rest.takeWhile (· = ' ')).length
    let c := c.advance (if indent = 0 then spaces else min spaces (indent - c.column))
    let widest := max widest c.column
    if (indent = 0 || c.column < indent) && c.isAt '\t' then none
    else
      match c.lineBreak? with
      | some (b, c) => blockBreaks indent fuel widest (breaks ++ [b]) c
      | none => some (breaks, widest, c)

/-- Scans the lines of a block. `last` is the break of the line before and `breaks` those of the
empty lines behind it. -/
def blockLines (literal : Bool) (indent : Nat) :
    Nat → List Char → Option Char → List Char → Bool → Cursor →
      Option (List Char × Option Char × List Char × Cursor)
  | 0, _, _, _, _, _ => none
  | fuel + 1, text, last, breaks, indented, c =>
    if c.column ≠ indent || c.atEnd then some (text, last, breaks, c)
    else do
      let indentedNow := c.rest.head?.any isBlank
      let joined :=
        if !literal && last = some '\n' && !indented && !indentedNow then
          if breaks.isEmpty then [' '] else []
        else last.toList
      let (content, c) := c.takeWhile (!isBreak ·)
      let text := text ++ joined ++ breaks ++ content
      let (last, c) := match c.lineBreak? with
        | some (b, c) => (some b, c)
        | none => (none, c)
      let (breaks, _, c) ← blockBreaks indent (c.left + 1) 0 [] c
      blockLines literal indent fuel text last breaks indentedNow c

/-- What is done with the line breaks at the end of a block. One of them may stay, or all of them,
or none. -/
inductive Chomping where
  | strip
  | clip
  | keep
  deriving Repr, DecidableEq

def Chomping.ofChar? (x : Char) : Option Chomping :=
  if x = '+' then some .keep else if x = '-' then some .strip else none

/-- The two indicators behind the sign that opens a block, in any order: how it ends, and how far
it is indented (0 if it is not said). -/
def blockHeader (c : Cursor) : Option (Chomping × Nat × Cursor) :=
  let chomping (c : Cursor) := (c.rest.head?.bind Chomping.ofChar?).map fun x => (x, c.advance 1)
  let digit (c : Cursor) := (c.rest.head?.filter Char.isDigit).map fun x =>
    (x.toNat - 48, c.advance 1)
  match chomping c with
  | some (x, c) =>
    match digit c with
    | some (n, c) => if n = 0 then none else some (x, n, c)
    | none => some (x, 0, c)
  | none =>
    match digit c with
    | some (n, c) =>
      if n = 0 then none
      else
        match chomping c with
        | some (x, c) => some (x, n, c)
        | none => some (.clip, n, c)
    | none => some (.clip, 0, c)

/-- Scans a block scalar behind the sign that opens it. The block it is in has the indentation
`outer`, which is -1 at the top. -/
def scanBlock (literal : Bool) (outer : Int) (c : Cursor) : Option (List Char × Cursor) := do
  let (chomping, increment, c) ← blockHeader c
  let c ← c.endLine
  let given := if increment = 0 then 0 else (max outer 0).toNat + increment
  let (breaks, widest, c) ← blockBreaks given (c.left + 1) 0 [] c
  let indent := if given = 0 then max (max widest (outer + 1).toNat) 1 else given
  let (text, last, breaks, c) ←
    blockLines literal indent (c.left + 1) [] none breaks false c
  let text := if chomping = .strip then text else text ++ last.toList
  return (if chomping = .keep then text ++ breaks else text, c)

end Expurgate.Yaml
