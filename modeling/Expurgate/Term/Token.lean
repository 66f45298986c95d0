import Expurgate.Term.Match

/-!
Finding the whole token around a word that matched. The pattern for a word is built once and kept
under the lower case form of the word.
-/

namespace Expurgate

open Unicode

/-- The program that finds the tokens which contain a word. It is built for a word that was matched,
to see whether the match lies in an allowed token. -/
structure TokenPattern where
  program : Program
  shape : Shape
  deriving Repr, DecidableEq

namespace TokenPattern

def build (word : List Char) : Option TokenPattern :=
  let shape := Shape.ofText word
  let pattern := Pattern.concat
    (Pattern.ofPhrase .whole shape false (Pattern.phrase false false word))
  match pattern.regex with
  | .ok regex => some ⟨regex.program, shape⟩
  | .error _ => none

/-- The group of a match that holds the token. -/
def token? (p : TokenPattern) (c : Captures) : Option Span :=
  match p.shape with
  | .plain => some ⟨c.start, c.stop⟩
  | .bounded => (c.group? 2).map fun g => ⟨g.1, g.2⟩

/-- The first token, as a scan of the text finds them, that reaches from before a stretch to behind
it. -/
def enclosing (p : TokenPattern) (range : Span) (h : Array Char) : Option Span :=
  (p.program.seekFrom h (fun c => (p.token? c).any (range.start < ·.start))
    (fun c => (p.token? c).any (range.stop ≤ ·.stop)) (h.size + 2) 0 none).bind p.token?

end TokenPattern

/-- The patterns built so far, the latest first. A word is known by its lower case there, so a
pattern answers for all spellings with the same one. -/
structure TokenCache where
  entries : List (String × Option TokenPattern)

namespace TokenCache

def empty : TokenCache := ⟨[]⟩

def size (c : TokenCache) : Nat := c.entries.length

/-- The pattern for a word, built if the cache does not hold it, and the cache afterwards. -/
def pattern (c : TokenCache) (word : List Char) : Option TokenPattern × TokenCache :=
  let key := toLower (String.ofList word)
  match c.entries.find? (·.1 = key) with
  | some (_, p) => (p, c)
  | none =>
    let p := TokenPattern.build word
    (p, ⟨(key, p) :: c.entries⟩)

/-- The token around a stretch of a text that holds a word. The tokens of the text are gone through
from the left until one holds the stretch, or lies behind it. -/
def enclosing (c : TokenCache) (word : List Char) (range : Span) (h : Array Char) :
    Option Span × TokenCache :=
  if word.isEmpty then (none, c)
  else
    let (p, c) := c.pattern word
    (p.bind (·.enclosing range h), c)

end TokenCache

end Expurgate
