import Expurgate.Unicode.Casing

/-!
Configurations: the settings that hold for every term, the terms themselves, the profiles they may
belong to, and the words that are never touched.
-/

namespace Expurgate

open Unicode

/-- How the text of a term is found in an input. A term has a method of its own, or the one of the
settings. -/
inductive MatchMethod where
  /-- The term between word edges. -/
  | exact
  /-- The term anywhere, also inside a larger word. -/
  | within
  /-- The whole word that contains the term. -/
  | whole
  /-- The text of the term is itself a pattern. -/
  | regex
  deriving Repr, DecidableEq

namespace MatchMethod

def name : MatchMethod → String
  | exact => "exact"
  | within => "partial"
  | whole => "whole"
  | regex => "regex"

def all : List MatchMethod := [exact, within, whole, regex]

def ofName? (s : String) : Option MatchMethod := all.find? (·.name = s)

end MatchMethod

/-- What is done with a match. One method holds for all terms. When it is off, a text is not even
looked at. -/
inductive FilterMethod where
  | off
  | censor
  | substitute
  | remove
  deriving Repr, DecidableEq

namespace FilterMethod

def name : FilterMethod → String
  | off => "off"
  | censor => "censor"
  | substitute => "substitute"
  | remove => "remove"

def all : List FilterMethod := [off, censor, substitute, remove]

def ofName? (s : String) : Option FilterMethod := all.find? (·.name = s)

end FilterMethod

/-- A choice among the configured terms. -/
inductive ProfileId where
  /-- Every term, whatever profiles it names. -/
  | all
  /-- The terms of one profile. -/
  | named (name : String)
  deriving Repr, DecidableEq

def ProfileId.display : ProfileId → String
  | all => "all"
  | named name => name

structure Settings where
  filterMethod : FilterMethod
  censorCharacter : Char
  /-- The length of a mask, or 0 for the length of the matched text. -/
  censorFixedLength : Nat
  preserveFirst : Bool
  preserveLast : Bool
  preserveCase : Bool
  /-- Whether substitutions are put in square brackets. -/
  substitutionMark : Bool
  defaultSubstitution : String
  defaultMatchMethod : MatchMethod
  defaultRepeat : Bool
  defaultSeparators : Bool
  /-- Without profiles, every request is for all terms. -/
  profilesEnabled : Bool
  deriving Repr, DecidableEq

/-- The settings of a configuration that says nothing. -/
def Settings.default : Settings where
  filterMethod := .censor
  censorCharacter := '*'
  censorFixedLength := 0
  preserveFirst := true
  preserveLast := false
  preserveCase := true
  substitutionMark := false
  defaultSubstitution := "censored"
  defaultMatchMethod := .exact
  defaultRepeat := false
  defaultSeparators := false
  profilesEnabled := true

/-- One configured term. Its text is also the key it is known by. What they leave open is taken from
the settings when the term is prepared. -/
structure TermOptions where
  text : String
  matchMethod : Option MatchMethod
  repeated : Option Bool
  separators : Option Bool
  /-- The texts that may take the place of a match. -/
  substitutions : List String
  preserveCase : Option Bool
  /-- The profiles the term belongs to; none means all of them. -/
  profiles : List String
  deriving Repr, DecidableEq

namespace TermOptions

def ofText (text : String) : TermOptions := ⟨text, none, none, none, [], none, []⟩

def withMethod (t : TermOptions) (m : MatchMethod) : TermOptions := { t with matchMethod := some m }

def withSubstitution (t : TermOptions) (s : String) : TermOptions :=
  { t with substitutions := t.substitutions ++ [s] }

def withRepeat (t : TermOptions) (value : Bool) : TermOptions := { t with repeated := some value }

def withSeparators (t : TermOptions) (value : Bool) : TermOptions :=
  { t with separators := some value }

def withPreserveCase (t : TermOptions) (value : Bool) : TermOptions :=
  { t with preserveCase := some value }

def inProfile (t : TermOptions) (p : String) : TermOptions :=
  { t with profiles := t.profiles ++ [p] }

def belongsTo (t : TermOptions) : ProfileId → Bool
  | .all => true
  | .named name => t.profiles.isEmpty || t.profiles.contains name

end TermOptions

/-- Words that stay even where a term matches them. They are kept as they were written, and an
`AllowList` is made of them for the search. -/
structure AllowEntries where
  caseSensitive : List String
  caseInsensitive : List String
  deriving Repr, DecidableEq

structure Config where
  settings : Settings
  /-- The declared profiles. A request for another name filters nothing. -/
  profiles : List String
  /-- The terms in the order of the file. -/
  terms : List TermOptions
  allowList : AllowEntries
  deriving Repr, DecidableEq

def Config.empty : Config := ⟨.default, [], [], ⟨[], []⟩⟩

/-- The options of the first term with that text. -/
def Config.term? (c : Config) (key : String) : Option TermOptions :=
  c.terms.find? (·.text = key)

end Expurgate
