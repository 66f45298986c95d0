import Expurgate.Yaml.Lexer

/-!
YAML documents as trees, and how tokens are put together to one.
-/

namespace Expurgate.Yaml

/-- A part of a document. A second mention of a part is kept as such and looked up where the
document is read. -/
inductive Node where
  /-- The content of an empty text. -/
  | void
  | scalar (text : String) (style : ScalarStyle) (tag : Option String)
  | sequence (items : List Node) (tag : Option String)
  | mapping (fields : List (Node × Node)) (tag : Option String)
  /-- Another mention of a node, by the number of its anchor. -/
  | alias (number : Nat)
  deriving Repr, Inhabited

structure Document where
  root : Node
  anchored : List (Nat × Node)
  deriving Repr

/-- The tokens not yet used, and what holds for names and handles at this place. Tokens are used
from the left, and a step that fails leaves nothing behind. -/
structure Assembly where
  tokens : List Token
  /-- The number that each name for an anchor stands for, the latest first. -/
  names : List (List Char × Nat)
  /-- The nodes by number, the latest first. -/
  anchored : List (Nat × Node)
  handles : List (List Char × List Char)

/-- A step that may fail. -/
abbrev Assemble := StateT Assembly Option

namespace Assemble

def peek : Assemble Token := do
  match (← get).tokens with
  | t :: _ => return t
  | [] => failure

def skip : Assemble Unit := modify fun s => { s with tokens := s.tokens.drop 1 }

def expect (t : Token) : Assemble Unit := do
  if (← peek) = t then skip else failure

def ahead (l : List Token) : Assemble Bool := do return l.contains (← peek)

/-- A name for the node that begins here. Its number counts the different names before it, so that a
name that is used again may share its number with the next new one. -/
def declare (name : List Char) : Assemble Nat := do
  let s ← get
  let number := s.names.length
  set { s with
    names := (name, number) :: s.names.filter (·.1 ≠ name)
    anchored := s.anchored.filter (·.1 ≠ number) }
  return number

/-- Records the node of a number, unless a later one took the number already. -/
def record (number : Option Nat) (n : Node) : Assemble Unit :=
  match number with
  | none => pure ()
  | some i => modify fun s =>
    if (s.anchored.lookup i).isSome then s else { s with anchored := (i, n) :: s.anchored }

def fullTag (handle suffix : List Char) : Assemble String :=
  if handle.isEmpty then return String.ofList suffix
  else do
    match (← get).handles.lookup handle with
    | some stem => return String.ofList (stem ++ suffix)
    | none => failure

/-- The anchor and the tag in front of a node, in any order. -/
def properties : Assemble (Option Nat × Option String) := do
  match ← peek with
  | .anchor name =>
    skip
    match ← peek with
    | .tag handle suffix =>
      skip
      let tag ← fullTag handle suffix
      return (some (← declare name), some tag)
    | _ => return (some (← declare name), none)
  | .tag handle suffix =>
    skip
    match ← peek with
    | .anchor name =>
      skip
      let tag ← fullTag handle suffix
      return (some (← declare name), some tag)
    | _ => return (none, some (← fullTag handle suffix))
  | _ => return (none, none)

def nothing : Node := .scalar "" .plain none

/-- The tag of a scalar. A lone exclamation mark says nothing. -/
def scalarTag (tag : Option String) : Option String := if tag = some "!" then none else tag

mutual

/-- A node. `block` tells whether it may be a block, and `indentless` whether a sequence may stand
at the indentation of its parent. -/
def node : Nat → Bool → Bool → Assemble Node
  | 0, _, _ => failure
  | fuel + 1, block, indentless => do
    match ← peek with
    | .alias name =>
      skip
      match (← get).names.lookup name with
      | some i => return .alias i
      | none => failure
    | _ =>
      let (number, tag) ← properties
      let n ← content fuel block indentless (number.isSome || tag.isSome) tag
      record number n
      return n

def content : Nat → Bool → Bool → Bool → Option String → Assemble Node
  | 0, _, _, _, _ => failure
  | fuel + 1, block, indentless, described, tag => do
    let t ← peek
    if indentless && t = .blockEntry then
      return .sequence (← indentlessItems fuel) tag
    else
      match t with
      | .scalar text style => do
        skip
        return .scalar (String.ofList text) style (scalarTag tag)
      | .flowSequenceStart => do
        skip
        return .sequence (← flowItems fuel true) tag
      | .flowMappingStart => do
        skip
        return .mapping (← flowFields fuel true) tag
      | .blockSequenceStart =>
        if block then do
          skip
          return .sequence (← blockItems fuel) tag
        else if described then return .scalar "" .plain (scalarTag tag)
        else failure
      | .blockMappingStart =>
        if block then do
          skip
          return .mapping (← blockFields fuel) tag
        else if described then return .scalar "" .plain (scalarTag tag)
        else failure
      | _ => if described then return .scalar "" .plain (scalarTag tag) else failure

def blockItems : Nat → Assemble (List Node)
  | 0 => failure
  | fuel + 1 => do
    if ← ahead [.blockEntry] then
      skip
      let n ← if ← ahead [.blockEntry, .blockEnd] then pure nothing else node fuel true false
      return n :: (← blockItems fuel)
    else do
      expect .blockEnd
      return []

/-- The items of a sequence without an indentation of its own. -/
def indentlessItems : Nat → Assemble (List Node)
  | 0 => failure
  | fuel + 1 => do
    if ← ahead [.blockEntry] then
      skip
      let n ← if ← ahead [.blockEntry, .key, .value, .blockEnd] then pure nothing
        else node fuel true false
      return n :: (← indentlessItems fuel)
    else return []

def blockFields : Nat → Assemble (List (Node × Node))
  | 0 => failure
  | fuel + 1 => do
    if ← ahead [.key] then
      skip
      let k ← if ← ahead [.key, .value, .blockEnd] then pure nothing else node fuel true true
      let v ← blockValue fuel
      return (k, v) :: (← blockFields fuel)
    else do
      expect .blockEnd
      return []

def blockValue : Nat → Assemble Node
  | 0 => failure
  | fuel + 1 => do
    if ← ahead [.value] then
      skip
      if ← ahead [.key, .value, .blockEnd] then return nothing else node fuel true true
    else return nothing

def flowItems : Nat → Bool → Assemble (List Node)
  | 0, _ => failure
  | fuel + 1, first => do
    if ← ahead [.flowSequenceEnd] then
      skip
      return []
    else do
      if !first then expect .flowEntry
      if ← ahead [.key] then
        skip
        let field ← flowPair fuel
        return .mapping [field] none :: (← flowItems fuel false)
      else if ← ahead [.flowSequenceEnd] then
        skip
        return []
      else do
        let n ← node fuel false false
        return n :: (← flowItems fuel false)

/-- A field that stands alone in a sequence. -/
def flowPair : Nat → Assemble (Node × Node)
  | 0 => failure
  | fuel + 1 => do
    let stops := [Token.flowEntry, .flowSequenceEnd]
    let k ← if ← ahead (.value :: stops) then do
        skip
        pure nothing
      else node fuel false false
    if ← ahead [.value] then
      skip
      if ← ahead stops then return (k, nothing) else return (k, ← node fuel false false)
    else return (k, nothing)

def flowFields : Nat → Bool → Assemble (List (Node × Node))
  | 0, _ => failure
  | fuel + 1, first => do
    if ← ahead [.flowMappingEnd] then
      skip
      return []
    else do
      if !first then expect .flowEntry
      let stops := [Token.flowEntry, .flowMappingEnd]
      if ← ahead [.key] then
        skip
        let k ← if ← ahead (.value :: stops) then pure nothing else node fuel false false
        let v ← if ← ahead [.value] then do
            skip
            if ← ahead stops then pure nothing else node fuel false false
          else pure nothing
        return (k, v) :: (← flowFields fuel false)
      else if ← ahead [.flowMappingEnd] then
        skip
        return []
      else do
        let k ← node fuel false false
        return (k, nothing) :: (← flowFields fuel false)

end

def standardHandles : List (List Char × List Char) :=
  [(['!'], ['!']), (['!', '!'], "tag:yaml.org,2002:".toList)]

/-- The directives in front of a document. Neither the version nor a handle may be given twice. -/
def directives : Nat → Bool → Assemble Unit
  | 0, _ => failure
  | fuel + 1, versioned => do
    match ← peek with
    | .versionDirective major minor =>
      if versioned || major ≠ 1 || (minor ≠ 1 && minor ≠ 2) then failure
      else do
        skip
        directives fuel true
    | .tagDirective handle stem =>
      if ((← get).handles.lookup handle).isSome then failure
      else do
        skip
        modify fun s => { s with handles := s.handles ++ [(handle, stem)] }
        directives fuel versioned
    | _ => modify fun s => { s with handles := s.handles ++ standardHandles }

/-- A text with at most one document. -/
def stream (fuel : Nat) : Assemble Node := do
  if ← ahead [.streamEnd] then return .void
  let before := (← get).tokens.length
  directives fuel false
  let explicit := (← get).tokens.length < before || (← ahead [.documentStart])
  if explicit then expect .documentStart
  let root ← if explicit && (← ahead [.documentStart, .documentEnd, .streamEnd]) then pure nothing
    else node fuel true false
  if ← ahead [.documentEnd] then closing fuel
  expect .streamEnd
  return root
where
  /-- Passes the marks at the end of a document. -/
  closing : Nat → Assemble Unit
    | 0 => failure
    | n + 1 => do
      if ← ahead [.documentEnd] then
        skip
        closing n

end Assemble

/-- The document of a text, if the text holds one document at most. -/
def parse (text : String) : Option Document := do
  let tokens ← tokenize text
  let (root, s) ← (Assemble.stream (8 * tokens.length + 8)).run ⟨tokens, [], [], []⟩
  return ⟨root, s.anchored⟩

end Expurgate.Yaml
