import Expurgate.Config.Basic
import Expurgate.Pattern.Source

/-!
The patterns that terms stand for. A term in plain shape sits between word edges. Where word edges
cannot be trusted, since the term holds characters beyond Latin-1 or begins or ends with
punctuation, its pattern is bounded: three groups hold the boundary in front, the content, and the
boundary behind.
-/

namespace Expurgate

open Unicode

/-- How the groups of a pattern map onto boundary and content. Plain patterns rely on word edges,
and bounded ones match the characters on either side. -/
inductive Shape where
  | plain
  | bounded
  deriving Repr, DecidableEq

def Shape.name : Shape → String
  | plain => "plain"
  | bounded => "bounded"

def hasNonLatin (s : List Char) : Bool := s.any fun c => 0xFF < c.toNat

def isEdgeWord (c : Char) : Bool := isAlphanumeric c || c = '_'

/-- Whether a text begins or ends with something other than a letter, number or underscore. -/
def hasEdgePunctuation (s : List Char) : Bool :=
  (s.head?.any fun c => !isEdgeWord c) || (s.getLast?.any fun c => !isEdgeWord c)

/-- The shape that the text of a term needs. Where a text begins and ends with letters, numbers or
underscores, word edges are enough. -/
def Shape.ofText (s : List Char) : Shape :=
  if hasNonLatin s || hasEdgePunctuation s then bounded else plain

namespace Pattern

def verbatim (c : Char) : ClassSet := .literal ⟨c, .verbatim⟩

def items (l : List ClassSet) : ClassSet := l.foldl ClassSet.add .empty

/-- The characters that may surround a bounded term, or all others. -/
def boundary (negated : Bool) : Pattern :=
  .bracket negated (items
    [.short .space false, verbatim '.', verbatim ',', verbatim '\'', verbatim '"', verbatim '+',
      verbatim '!', verbatim '?', verbatim '|', .literal (.quoted '-')])

def boundaryRun : Pattern := .repetition 1 none true (boundary false)

def tokenRun : Pattern := .repetition 0 none true (boundary true)

def wordRun : Pattern :=
  .repetition 0 none true (.bracket false (items [.short .word false, verbatim '-']))

/-- The separators that may stand between the characters of a term. -/
def separatorRun : Pattern :=
  .repetition 0 none true
    (.bracket false (items [verbatim ' ', verbatim '_', .literal (.quoted '-')]))

/-- White space that is taken along if it is there. -/
def optionalSpace : Pattern := .repetition 0 (some 1) true (.short .space false)

def edge : Pattern := .anchor .wordEdge

/-- A character of a term, which may be repeated. -/
def letter (repeated : Bool) (c : Char) : Pattern :=
  if repeated then .repetition 1 none true (.literal (.quoted c)) else .literal (.quoted c)

/-- The characters of a term, each of them repeated or not, with separators between them or not. -/
def phrase (repeated separators : Bool) : List Char → List Pattern
  | [] => []
  | [c] => [letter repeated c]
  | c :: rest =>
    letter repeated c :: ((if separators then [separatorRun] else [])
      ++ phrase repeated separators rest)

/-- Content between boundaries, in groups 1 to 3. -/
def between (content : List Pattern) : List Pattern :=
  [.group (.capture 1 none) (.alternate (.anchor .caret) boundaryRun),
   .group (.capture 2 none) (concat content),
   .group (.capture 3 none) (.alternate boundaryRun (.anchor .dollar))]

/-- A phrase with the rest of its token, between boundaries. The token is what stands between
boundaries, and so it may have marks of its own inside. -/
def wholeToken (phrase : List Pattern) : List Pattern :=
  between (tokenRun :: (phrase ++ [tokenRun]))

/-- A phrase with the rest of its word, between word edges. The word may go on beyond the phrase,
over hyphens too. -/
def wholeWord (phrase : List Pattern) : List Pattern :=
  edge :: wordRun :: (phrase ++ [wordRun, edge])

/-- Takes the white space next to a match along. One space on either side, if there is one. -/
def withSpace (p : List Pattern) : List Pattern := optionalSpace :: (p ++ [optionalSpace])

/-- The pattern of a phrase. A term that is to be removed takes the white space around it along, and
a term that matches inside words takes the whole word. -/
def ofPhrase (method : MatchMethod) (shape : Shape) (remove : Bool) (phrase : List Pattern) :
    List Pattern :=
  match method, shape with
  | .exact, .bounded => between phrase
  | .exact, .plain =>
    let p := edge :: (phrase ++ [edge])
    if remove then withSpace p else p
  | .within, .bounded =>
    if remove then wholeToken phrase
    else
      [.group (.capture 1 none) .empty, .group (.capture 2 none) (concat phrase),
        .group (.capture 3 none) .empty]
  | .within, .plain => if remove then withSpace (wholeWord phrase) else phrase
  | .whole, .bounded => wholeToken phrase
  | .whole, .plain => wholeWord phrase
  | .regex, _ => phrase

end Pattern

end Expurgate
