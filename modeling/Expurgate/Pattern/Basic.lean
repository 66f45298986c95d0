import Expurgate.Unicode.PropertyQuery

/-!
Patterns as they are written. A pattern keeps what its text says, such as whether a character stands
for itself or is escaped, so that the text can be given back; what the pattern means is settled in a
further step.
-/

namespace Expurgate

open Unicode

/-- How a single character is written. -/
inductive LiteralForm where
  | verbatim
  | escaped
  | byte
  | code
  deriving Repr, DecidableEq

structure Literal where
  char : Char
  form : LiteralForm
  deriving Repr, DecidableEq

/-- The characters that have a meaning of their own somewhere in a pattern. -/
def isMeta (c : Char) : Bool :=
  ['\\', '.', '+', '*', '?', '(', ')', '|', '[', ']', '\x7b', '\x7d', '^', '$', '#', '&', '-',
    '~'].contains c

/-- A character written so that it means nothing but itself. -/
def Literal.quoted (c : Char) : Literal := ⟨c, if isMeta c then .escaped else .verbatim⟩

inductive ShortClass where
  | digit
  | space
  | word
  deriving Repr, DecidableEq

inductive PosixClass where
  | alnum
  | alpha
  | ascii
  | blank
  | cntrl
  | digit
  | graph
  | lower
  | print
  | punct
  | space
  | upper
  | word
  | xdigit
  deriving Repr, DecidableEq

inductive SetOperation where
  | intersection
  | difference
  | symmetricDifference
  deriving Repr, DecidableEq

/-- What stands between brackets. Items are united unless operators stand between them, and a class
may stand within another one. -/
inductive ClassSet where
  | empty
  | literal (l : Literal)
  | range (first last : Literal)
  | posix (kind : PosixClass) (negated : Bool)
  | short (kind : ShortClass) (negated : Bool)
  | property (query : PropertyQuery) (negated : Bool)
  | bracketed (negated : Bool) (s : ClassSet)
  | union (a b : ClassSet)
  | operation (op : SetOperation) (a b : ClassSet)
  deriving Repr, DecidableEq

def ClassSet.add : ClassSet → ClassSet → ClassSet
  | .empty, item => item
  | items, item => .union items item

/-- Conditions on a place, as they are written. What they mean depends on the flags that are in
force at the place. -/
inductive Anchor where
  | caret
  | dollar
  | textStart
  | textStop
  | wordEdge
  | notWordEdge
  | wordStart
  | wordStop
  | wordStartHalf
  | wordStopHalf
  deriving Repr, DecidableEq

/-- Switches that change how the rest of a group is read. -/
inductive Flag where
  | caseInsensitive
  | multiLine
  | dotMatchesNewLine
  | swapGreed
  | unicode
  | crlf
  | ignoreSpace
  deriving Repr, DecidableEq

/-- Kinds of parentheses: numbered ones, which may have a name, and others, which may set flags. -/
inductive GroupKind where
  | capture (index : Nat) (name : Option String)
  | plain (flags : List (Flag × Bool))
  deriving Repr, DecidableEq

/-- A pattern as it is written. It keeps how characters were written, because an escaped one may
mean something else than a bare one. -/
inductive Pattern where
  | empty
  | flags (items : List (Flag × Bool))
  | literal (l : Literal)
  | dot
  | anchor (a : Anchor)
  | short (kind : ShortClass) (negated : Bool)
  | property (query : PropertyQuery) (negated : Bool)
  | bracket (negated : Bool) (s : ClassSet)
  | repetition (min : Nat) (max : Option Nat) (greedy : Bool) (body : Pattern)
  | group (kind : GroupKind) (body : Pattern)
  | alternate (a b : Pattern)
  | seq (a b : Pattern)
  deriving Repr, DecidableEq

namespace Pattern

def concat : List Pattern → Pattern
  | [] => empty
  | [p] => p
  | p :: rest => seq p (concat rest)

end Pattern

inductive PatternError where
  | groupUnclosed
  | groupUnopened
  | groupNameInvalid
  | groupNameDuplicate
  | lookAround
  | flagUnrecognized
  | flagDuplicate
  | flagNegation
  | repetitionMissing
  | repetitionInvalid
  | escapeUnfinished
  | escapeUnrecognized
  | backReference
  | hexInvalid
  | classUnclosed
  | classRangeInvalid
  | classEscapeInvalid
  | propertyUnknown
  | nestingTooDeep
  | unicodeNotAllowed
  | invalidBytes
  | tooLarge
  deriving Repr, DecidableEq

end Expurgate
