import Expurgate.Pattern.Source

/-!
Reading a pattern from a text. Groups, classes and repetitions nest; the argument that counts down
in each function bounds the characters still to be read.
-/

namespace Expurgate

open Unicode

namespace Pattern

/-- What is left of the text, whether blanks in it are skipped, and the groups opened so far. Their
number goes with the text because groups are numbered in the order in which they open. -/
structure Cursor where
  rest : List Char
  ignoreSpace : Bool
  groups : Nat
  names : List String

/-- A text without the blanks and comments in front of it; a comment runs from `#` to the end of the
line. -/
def dropBlanks (comment : Bool) : List Char → List Char
  | [] => []
  | c :: rest =>
    if comment then dropBlanks (c ≠ '\n') rest
    else if isSpace c then dropBlanks false rest
    else if c = '#' then dropBlanks true rest
    else c :: rest

namespace Cursor

def skipBlanks (cur : Cursor) : Cursor :=
  if cur.ignoreSpace then { cur with rest := dropBlanks false cur.rest } else cur

def goto (cur : Cursor) (rest : List Char) : Cursor := { cur with rest := rest }

/-- Goes on to a later part of the text and passes over blanks there. -/
def advance (cur : Cursor) (rest : List Char) : Cursor := (cur.goto rest).skipBlanks

end Cursor

def hexValue? (c : Char) : Option Nat :=
  if c.isDigit then some (c.toNat - '0'.toNat)
  else if 'a' ≤ c ∧ c ≤ 'f' then some (c.toNat - 'a'.toNat + 10)
  else if 'A' ≤ c ∧ c ≤ 'F' then some (c.toNat - 'A'.toNat + 10)
  else none

def charOfCode (n : Nat) : Except PatternError Char :=
  if h : n.isValidChar then .ok (Char.ofNatAux n h) else .error .hexInvalid

/-- Reads a given number of hexadecimal digits onto the value `n`. -/
def parseHexFixed : Nat → Nat → Cursor → Except PatternError (Nat × Cursor)
  | 0, n, cur => .ok (n, cur)
  | k + 1, n, cur =>
    match cur.rest with
    | [] => .error .escapeUnfinished
    | c :: rest =>
      match hexValue? c with
      | some d => parseHexFixed k (16 * n + d) (cur.advance rest)
      | none => .error .hexInvalid

/-- Reads hexadecimal digits up to a closing brace. `n` is the value of those read so far. -/
def parseHexBraced : Nat → Option Nat → Cursor → Except PatternError (Nat × Cursor)
  | 0, _, _ => .error .escapeUnfinished
  | fuel + 1, n, cur =>
    match cur.rest with
    | [] => .error .escapeUnfinished
    | '\x7d' :: rest =>
      match n with
      | some n => .ok (n, cur.advance rest)
      | none => .error .hexInvalid
    | c :: rest =>
      match hexValue? c with
      | some d => parseHexBraced fuel (some (16 * n.getD 0 + d)) (cur.advance rest)
      | none => .error .hexInvalid

/-- Reads the digits of a code point, which are `digits` in number unless braces enclose them. -/
def parseHex (digits : Nat) (cur : Cursor) : Except PatternError (Literal × Cursor) :=
  match cur.rest with
  | '\x7b' :: rest => do
    let (n, cur) ← parseHexBraced (rest.length + 1) none (cur.advance rest)
    return (⟨← charOfCode n, .code⟩, cur)
  | _ => do
    let (n, cur) ← parseHexFixed digits 0 cur
    return (⟨← charOfCode n, if digits = 2 then .byte else .code⟩, cur)

/-- Splits the text of a property at the first sign that separates name and value. The flag tells
that the sign excludes the value. -/
def propertyQuery (s : List Char) : PropertyQuery × Bool :=
  let rec splitAt (sign : List Char) (before : List Char) : List Char → Option (String × String)
    | [] => none
    | c :: rest =>
      if sign.isPrefixOf (c :: rest) then
        some (String.ofList before.reverse, String.ofList ((c :: rest).drop sign.length))
      else splitAt sign (c :: before) rest
  match splitAt ['!', '='] [] s with
  | some (p, v) => (.value p v, true)
  | none =>
    match (splitAt [':'] [] s).or (splitAt ['='] [] s) with
    | some (p, v) => (.value p v, false)
    | none => (.name (String.ofList s), false)

def parsePropertyName : Nat → List Char → Cursor → Except PatternError (List Char × Cursor)
  | 0, _, _ => .error .escapeUnfinished
  | fuel + 1, acc, cur =>
    match cur.rest with
    | [] => .error .escapeUnfinished
    | '\x7d' :: rest => .ok (acc.reverse, cur.goto rest)
    | c :: rest => parsePropertyName fuel (c :: acc) (cur.advance rest)

/-- Reads what follows `\p` or `\P`: one letter, or a name in braces. Which properties there are is
not asked here, so an unknown one is read and refused later. -/
def parseProperty (negated : Bool) (cur : Cursor) : Except PatternError (Pattern × Cursor) :=
  match cur.rest with
  | [] => .error .escapeUnfinished
  | '\x7b' :: rest => do
    let (name, cur) ← parsePropertyName (rest.length + 1) [] (cur.advance rest)
    let (query, excluded) := propertyQuery name
    return (.property query (negated ^^ excluded), cur)
  | '\\' :: _ => .error .propertyUnknown
  | c :: rest => .ok (.property (.name (String.ofList [c])) negated, cur.advance rest)

def parseEdgeName : Nat → List Char → Cursor → Except PatternError (List Char × Cursor)
  | 0, _, _ => .error .escapeUnfinished
  | fuel + 1, acc, cur =>
    match cur.rest with
    | [] => .error .escapeUnfinished
    | '\x7d' :: rest => .ok (acc.reverse, cur.goto rest)
    | c :: rest =>
      if c.isAlpha || c = '-' then parseEdgeName fuel (c :: acc) (cur.advance rest)
      else .error .escapeUnrecognized

/-- Reads what may follow `\b`. A brace that holds no letter belongs to a repetition. -/
def parseWordEdge (cur : Cursor) : Except PatternError (Pattern × Cursor) :=
  match cur.rest with
  | '\x7b' :: rest =>
    let inner := cur.advance rest
    match inner.rest with
    | [] => .error .escapeUnfinished
    | c :: _ =>
      if c.isAlpha || c = '-' then do
        let (name, cur) ← parseEdgeName (rest.length + 1) [] inner
        match String.ofList name with
        | "start" => return (.anchor .wordStart, cur)
        | "end" => return (.anchor .wordStop, cur)
        | "start-half" => return (.anchor .wordStartHalf, cur)
        | "end-half" => return (.anchor .wordStopHalf, cur)
        | _ => throw .escapeUnrecognized
      else .ok (.anchor .wordEdge, cur)
  | _ => .ok (.anchor .wordEdge, cur)

/-- Characters that may be escaped although they mean nothing special. -/
def isEscapable (c : Char) : Bool :=
  isMeta c || (c.toNat < 0x80 && !c.isAlphanum && c != '<' && c != '>')

def parseEscape (cur : Cursor) : Except PatternError (Pattern × Cursor) :=
  match cur.rest with
  | [] => .error .escapeUnfinished
  | c :: rest =>
    let next := cur.goto rest
    if c.isDigit then .error .backReference
    else if isEscapable c then .ok (.literal ⟨c, .escaped⟩, next)
    else
      match c with
      | 'x' => do let (l, cur) ← parseHex 2 (cur.advance rest); return (.literal l, cur)
      | 'u' => do let (l, cur) ← parseHex 4 (cur.advance rest); return (.literal l, cur)
      | 'U' => do let (l, cur) ← parseHex 8 (cur.advance rest); return (.literal l, cur)
      | 'p' => parseProperty false (cur.advance rest)
      | 'P' => parseProperty true (cur.advance rest)
      | 'd' => .ok (.short .digit false, next)
      | 'D' => .ok (.short .digit true, next)
      | 's' => .ok (.short .space false, next)
      | 'S' => .ok (.short .space true, next)
      | 'w' => .ok (.short .word false, next)
      | 'W' => .ok (.short .word true, next)
      | 'a' => .ok (.literal ⟨'\x07', .code⟩, next)
      | 'f' => .ok (.literal ⟨'\x0c', .code⟩, next)
      | 't' => .ok (.literal ⟨'\t', .code⟩, next)
      | 'n' => .ok (.literal ⟨'\n', .code⟩, next)
      | 'r' => .ok (.literal ⟨'\r', .code⟩, next)
      | 'v' => .ok (.literal ⟨'\x0b', .code⟩, next)
      | 'A' => .ok (.anchor .textStart, next)
      | 'z' => .ok (.anchor .textStop, next)
      | 'b' => parseWordEdge next
      | 'B' => .ok (.anchor .notWordEdge, next)
      | '<' => .ok (.anchor .wordStart, next)
      | '>' => .ok (.anchor .wordStop, next)
      | _ => .error .escapeUnrecognized

/-- Reads one end of a range inside brackets, or a class that stands there by itself. -/
def parseClassAtom (cur : Cursor) : Except PatternError (Pattern × Cursor) :=
  match cur.rest with
  | [] => .error .classUnclosed
  | '\\' :: rest => parseEscape (cur.goto rest)
  | c :: rest => .ok (.literal ⟨c, .verbatim⟩, cur.goto rest)

/-- What an atom contributes to a class. -/
def classItem : Pattern → Except PatternError ClassSet
  | literal l => .ok (.literal l)
  | short kind negated => .ok (.short kind negated)
  | property query negated => .ok (.property query negated)
  | _ => .error .classEscapeInvalid

/-- Reads a character, a class or a range. A dash before the closing bracket or before another dash
makes no range. -/
def parseClassRange (cur : Cursor) : Except PatternError (ClassSet × Cursor) := do
  let (first, cur) ← parseClassAtom cur
  let cur := cur.skipBlanks
  match cur.rest with
  | [] => throw .classUnclosed
  | '-' :: rest =>
    let behind := cur.advance rest
    match behind.rest with
    | [] => throw .classUnclosed
    | c :: _ =>
      if c = ']' || c = '-' then return (← classItem first, cur)
      let (last, cur) ← parseClassAtom behind
      match first, last with
      | .literal a, .literal b =>
        if a.char ≤ b.char then return (.range a b, cur) else throw .classRangeInvalid
      | _, _ => throw .classRangeInvalid
  | _ => return (← classItem first, cur)

/-- Reads the name of a class behind `[`, such as `:alpha:]`, if there is one. -/
def posixClass? (s : List Char) : Option (ClassSet × List Char) :=
  match s with
  | ':' :: s =>
    let (negated, s) := match s with
      | '^' :: s => (true, s)
      | s => (false, s)
    let name := String.ofList (s.takeWhile (· ≠ ':'))
    match s.dropWhile (· ≠ ':') with
    | ':' :: ']' :: rest =>
      (PosixClass.all.find? (·.name = name)).map fun kind => (.posix kind negated, rest)
    | _ => none
  | _ => none

/-- Joins the items read last to the operation that waits for them. Operators between classes have
no ranks and are applied from the left. -/
def finishOperation (pending : Option (SetOperation × ClassSet)) (items : ClassSet) : ClassSet :=
  match pending with
  | some (op, left) => .operation op left items
  | none => items

/-- Reads the dashes that stand for themselves at the beginning of a class. -/
def parseDashes : Nat → ClassSet → Cursor → ClassSet × Cursor
  | 0, items, cur => (items, cur)
  | fuel + 1, items, cur =>
    match cur.rest with
    | '-' :: rest => parseDashes fuel (items.add (.literal ⟨'-', .verbatim⟩)) (cur.advance rest)
    | _ => (items, cur)

/-- Reads the beginning of a class behind its bracket: a caret, dashes, and a closing bracket that
comes first and therefore stands for itself. -/
def parseClassOpen (cur : Cursor) : Bool × ClassSet × Cursor :=
  let (negated, cur) := match cur.rest with
    | '^' :: rest => (true, cur.advance rest)
    | _ => (false, cur)
  let (items, cur) := parseDashes cur.rest.length .empty cur
  match items, cur.rest with
  | .empty, ']' :: rest => (negated, .literal ⟨']', .verbatim⟩, cur.advance rest)
  | _, _ => (negated, items, cur)

def parseClassItems : Nat → Option (SetOperation × ClassSet) → ClassSet → Cursor →
    Except PatternError (ClassSet × Cursor)
  | 0, _, _, _ => .error .classUnclosed
  | fuel + 1, pending, items, cur =>
    let cur := cur.skipBlanks
    match cur.rest with
    | [] => .error .classUnclosed
    | '[' :: rest =>
      match posixClass? rest with
      | some (item, rest) => parseClassItems fuel pending (items.add item) (cur.goto rest)
      | none => do
        let (negated, inner, cur) := parseClassOpen (cur.advance rest)
        let (set, cur) ← parseClassItems fuel none inner cur
        parseClassItems fuel pending (items.add (.bracketed negated set)) cur
    | ']' :: rest => .ok (finishOperation pending items, cur.goto rest)
    | '&' :: '&' :: rest =>
      parseClassItems fuel (some (.intersection, finishOperation pending items)) .empty
        (cur.goto rest)
    | '-' :: '-' :: rest =>
      parseClassItems fuel (some (.difference, finishOperation pending items)) .empty
        (cur.goto rest)
    | '~' :: '~' :: rest =>
      parseClassItems fuel (some (.symmetricDifference, finishOperation pending items)) .empty
        (cur.goto rest)
    | _ => do
      let (item, cur) ← parseClassRange cur
      parseClassItems fuel pending (items.add item) cur

def parseClass (cur : Cursor) : Except PatternError (Pattern × Cursor) := do
  let (negated, items, inner) := parseClassOpen cur.skipBlanks
  let (set, cur) ← parseClassItems (cur.rest.length + 1) none items inner
  return (.bracket negated set, cur)

/-- Reads flags up to the colon or parenthesis behind them. -/
def parseFlags (negated dash : Bool) (acc : List (Flag × Bool)) :
    List Char → Except PatternError (List (Flag × Bool) × List Char)
  | [] => .error .groupUnclosed
  | c :: rest =>
    if c = ':' || c = ')' then
      if dash then .error .flagNegation else .ok (acc.reverse, c :: rest)
    else if c = '-' then
      if negated then .error .flagNegation else parseFlags true true acc rest
    else
      match [Flag.caseInsensitive, .multiLine, .dotMatchesNewLine, .swapGreed, .unicode, .crlf,
          .ignoreSpace].find? (·.letter = c) with
      | none => .error .flagUnrecognized
      | some flag =>
        if acc.any (·.1 = flag) then .error .flagDuplicate
        else parseFlags negated false ((flag, !negated) :: acc) rest

def parseGroupName (acc : List Char) : List Char → Except PatternError (String × List Char)
  | [] => .error .groupNameInvalid
  | c :: rest =>
    if c = '>' then
      if acc.isEmpty then .error .groupNameInvalid
      else .ok (String.ofList acc.reverse, rest)
    else if c = '_' || (if acc.isEmpty then isAlphabetic c
        else isAlphanumeric c || c = '.' || c = '[' || c = ']') then
      parseGroupName (c :: acc) rest
    else .error .groupNameInvalid

inductive GroupHead where
  | directive (items : List (Flag × Bool))
  | group (kind : GroupKind)

def openCapture (name : Option String) (cur : Cursor) : Except PatternError (GroupHead × Cursor) :=
  match name with
  | some s =>
    if cur.names.contains s then .error .groupNameDuplicate
    else
      .ok (.group (.capture (cur.groups + 1) name),
        { cur with groups := cur.groups + 1, names := s :: cur.names })
  | none => .ok (.group (.capture (cur.groups + 1) none), { cur with groups := cur.groups + 1 })

def parseGroupHead (cur : Cursor) : Except PatternError (GroupHead × Cursor) :=
  let cur := cur.skipBlanks
  match cur.rest with
  | '?' :: '=' :: _ | '?' :: '!' :: _ | '?' :: '<' :: '=' :: _ | '?' :: '<' :: '!' :: _ =>
    .error .lookAround
  | '?' :: 'P' :: '<' :: rest | '?' :: '<' :: rest => do
    let (name, rest) ← parseGroupName [] rest
    openCapture (some name) (cur.goto rest)
  | '?' :: rest => do
    match ← parseFlags false false [] rest with
    | (items, ':' :: rest) => return (.group (.plain items), cur.goto rest)
    | (items, rest) =>
      if items.isEmpty then throw .repetitionMissing
      return (.directive items, cur.goto (rest.drop 1))
  | _ => openCapture none cur

/-- Whether flags switch the skipping of blanks; if they do not, it stays as it was. -/
def ignoreSpaceAfter (items : List (Flag × Bool)) (old : Bool) : Bool :=
  match items.find? (·.1 = Flag.ignoreSpace) with
  | some (_, value) => value
  | none => old

def parseGreed (cur : Cursor) : Bool × Cursor :=
  match cur.rest with
  | '?' :: rest => (false, cur.goto rest)
  | _ => (true, cur)

def maxCount : Nat := 0xFFFFFFFF

def parseDigits : Nat → Option Nat → Cursor → Option Nat × Cursor
  | 0, n, cur => (n, cur)
  | fuel + 1, n, cur =>
    match cur.rest with
    | c :: rest =>
      if c.isDigit then
        parseDigits fuel (some (10 * n.getD 0 + (c.toNat - '0'.toNat))) (cur.advance rest)
      else (n, cur)
    | [] => (n, cur)

def parseCount (cur : Cursor) : Except PatternError (Option Nat × Cursor) :=
  let cur := cur.goto (trimStart cur.rest)
  let (n, cur) := parseDigits cur.rest.length none cur
  if n.getD 0 ≤ maxCount then .ok (n, cur.goto (trimStart cur.rest) |>.skipBlanks)
  else .error .repetitionInvalid

def parseCounts (cur : Cursor) : Except PatternError ((Nat × Option Nat) × Cursor) := do
  let (min, cur) ← parseCount cur.skipBlanks
  match min with
  | none => throw .repetitionInvalid
  | some min =>
    match cur.rest with
    | '\x7d' :: rest => return ((min, some min), cur.advance rest)
    | ',' :: rest =>
      let cur := cur.advance rest
      match cur.rest with
      | '\x7d' :: rest => return ((min, none), cur.advance rest)
      | _ =>
        let (max, cur) ← parseCount cur
        match max, cur.rest with
        | some max, '\x7d' :: rest =>
          if min ≤ max then return ((min, some max), cur.advance rest)
          else throw .repetitionInvalid
        | _, _ => throw .repetitionInvalid
    | _ => throw .repetitionInvalid

/-- Puts a repetition around the item read last, which must be more than flags. Flags have nothing
in front of them that could be repeated. -/
def repeatLast (min : Nat) (max : Option Nat) (greedy : Bool) :
    List Pattern → Except PatternError (List Pattern)
  | [] | flags _ :: _ | empty :: _ => .error .repetitionMissing
  | p :: acc => .ok (repetition min max greedy p :: acc)

/-- Reads a character, a dot, an anchor or an escape. -/
def parsePrimitive (c : Char) (cur : Cursor) : Except PatternError (Pattern × Cursor) :=
  match c with
  | '\\' => parseEscape cur
  | '.' => .ok (dot, cur)
  | '^' => .ok (anchor .caret, cur)
  | '$' => .ok (anchor .dollar, cur)
  | c => .ok (literal ⟨c, .verbatim⟩, cur)

/-- The counts of a repetition that one sign stands for. -/
def signCounts? : Char → Option (Nat × Option Nat)
  | '?' => some (0, some 1)
  | '*' => some (0, none)
  | '+' => some (1, none)
  | _ => none

mutual

/-- Reads the items of a branch, up to the end of the branch; `acc` holds them, the latest first. -/
def parseItems : Nat → List Pattern → Cursor → Except PatternError (List Pattern × Cursor)
  | 0, _, _ => .error .nestingTooDeep
  | fuel + 1, acc, cur =>
    let cur := cur.skipBlanks
    match cur.rest with
    | [] => .ok (acc.reverse, cur)
    | c :: rest =>
      if c = '|' || c = ')' then .ok (acc.reverse, cur)
      else if c = '(' then do
        match ← parseGroupHead (cur.goto rest) with
        | (.directive items, next) =>
          parseItems fuel (flags items :: acc)
            { next with ignoreSpace := ignoreSpaceAfter items cur.ignoreSpace }
        | (.group kind, next) =>
          let inner := match kind with
            | .plain items => ignoreSpaceAfter items cur.ignoreSpace
            | .capture _ _ => cur.ignoreSpace
          let (body, next) ← parseBranches fuel { next with ignoreSpace := inner }
          match next.rest with
          | ')' :: rest =>
            parseItems fuel (group kind body :: acc)
              { next with rest := rest, ignoreSpace := cur.ignoreSpace }
          | _ => throw .groupUnclosed
      else if c = '[' then do
        let (p, next) ← parseClass (cur.goto rest)
        parseItems fuel (p :: acc) next
      else if c = '\x7b' then do
        let ((min, max), next) ← parseCounts (cur.goto rest)
        let (greedy, next) := parseGreed next
        parseItems fuel (← repeatLast min max greedy acc) next
      else
        match signCounts? c with
        | some (min, max) => do
          let (greedy, next) := parseGreed (cur.goto rest)
          parseItems fuel (← repeatLast min max greedy acc) next
        | none => do
          let (p, next) ← parsePrimitive c (cur.goto rest)
          parseItems fuel (p :: acc) next

def parseBranches : Nat → Cursor → Except PatternError (Pattern × Cursor)
  | 0, _ => .error .nestingTooDeep
  | fuel + 1, cur => do
    let (items, cur) ← parseItems fuel [] cur
    match cur.rest with
    | '|' :: rest =>
      let (others, cur) ← parseBranches fuel (cur.goto rest)
      return (alternate (concat items) others, cur)
    | _ => return (concat items, cur)

end

/-- How deep the sets between brackets nest. Items that stand beside one another count once, however
many they are; `counted` tells that they are the first ones of a row that is counted already. -/
def classNesting (counted : Bool) : ClassSet → Nat
  | .bracketed _ s => classNesting false s + 1
  | .union a b => max (classNesting true a) (classNesting false b) + (if counted then 0 else 1)
  | .operation _ a b => max (classNesting false a) (classNesting false b) + 1
  | _ => 0

/-- Whether one pattern merely continues a sequence or a choice that is already counted. -/
inductive Within where
  | nothing
  | sequence
  | choice
  deriving DecidableEq

/-- How deep a pattern nests. A sequence counts once, and so does a choice, however long. A pattern
beyond the limit is refused, whatever it would mean. -/
def nesting (within : Within) : Pattern → Nat
  | repetition _ _ _ p => nesting .nothing p + 1
  | group _ p => nesting .nothing p + 1
  | alternate a b =>
    max (nesting .nothing a) (nesting .choice b) + (if within = .choice then 0 else 1)
  | seq a b =>
    max (nesting .nothing a) (nesting .sequence b) + (if within = .sequence then 0 else 1)
  | bracket _ s => classNesting false s + 1
  | _ => 0

def maxNesting : Nat := 250

def parse (s : String) : Except PatternError Pattern := do
  let chars := s.toList
  let (p, cur) ← parseBranches (2 * chars.length + 2) ⟨chars, false, 0, []⟩
  if !cur.rest.isEmpty then throw .groupUnopened
  if nesting .nothing p ≤ maxNesting then return p else throw .nestingTooDeep

end Pattern

end Expurgate
