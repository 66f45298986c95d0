import Expurgate.Error
import Expurgate.Pattern.Meaning
import Expurgate.Regex.Search
import Expurgate.Term.Shape

/-!
Terms that are ready to be searched for.
-/

namespace Expurgate

/-- A configured term with the program that finds it. Nothing in it depends on the profile that it
is used for, and so each set has its own. -/
structure Term where
  text : String
  method : MatchMethod
  repeated : Bool
  separators : Bool
  substitutions : List String
  preserveCase : Bool
  nonLatin : Bool
  shape : Shape
  /-- The text of the pattern. -/
  source : String
  program : Program
  deriving Repr, DecidableEq

namespace TermOptions

/-- The method of a term, its own or the one for all. -/
def methodIn (t : TermOptions) (s : Settings) : MatchMethod :=
  t.matchMethod.getD s.defaultMatchMethod

/-- Whether the characters of a term may repeat. A pattern of the user's own is taken as it is. -/
def repeatedIn (t : TermOptions) (s : Settings) : Bool :=
  t.methodIn s ≠ .regex && t.repeated.getD s.defaultRepeat

def separatorsIn (t : TermOptions) (s : Settings) : Bool :=
  t.methodIn s ≠ .regex && t.separators.getD s.defaultSeparators

def shapeIn (t : TermOptions) (s : Settings) : Shape :=
  if t.methodIn s = .regex then .plain else .ofText t.text.toList

def builtPattern (t : TermOptions) (s : Settings) : Pattern :=
  .concat (Pattern.ofPhrase (t.methodIn s) (t.shapeIn s) (s.filterMethod = .remove)
    (Pattern.phrase (t.repeatedIn s) (t.separatorsIn s) t.text.toList))

def sourceIn (t : TermOptions) (s : Settings) : String :=
  if t.methodIn s = .regex then t.text else (t.builtPattern s).source

def regexIn (t : TermOptions) (s : Settings) : Except PatternError Regex :=
  if t.methodIn s = .regex then Regex.ofText t.text else (t.builtPattern s).regex

end TermOptions

/-- Prepares a term. What it leaves open is taken from the settings. It fails for an empty text, for
an overlong pattern and for what the compiler of patterns refuses. -/
def Term.compile (t : TermOptions) (s : Settings) : Except FilterError Term :=
  if t.text = "" then .error .emptyTerm
  else if t.methodIn s = .regex ∧ maxPatternLength < t.text.utf8ByteSize then
    .error (.patternLengthExceeded t.text t.text.utf8ByteSize)
  else
    match t.regexIn s with
    | .error cause => .error (.termCompilation t.text cause)
    | .ok regex =>
      .ok
        { text := t.text
          method := t.methodIn s
          repeated := t.repeatedIn s
          separators := t.separatorsIn s
          substitutions := t.substitutions
          preserveCase := t.preserveCase.getD s.preserveCase
          nonLatin := hasNonLatin t.text.toList
          shape := t.shapeIn s
          source := t.sourceIn s
          program := regex.program }

end Expurgate
