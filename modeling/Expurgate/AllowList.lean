import Expurgate.Term.Token

/-!
Words that stay even where a term matches them.
-/

namespace Expurgate

open Unicode

/-- The allowed words; those for any case are kept in lower case. A word is looked up as it stands
among the one kind and in lower case among the other. -/
structure AllowList where
  caseSensitive : List String
  caseInsensitive : List String
  deriving Repr, DecidableEq

namespace AllowList

/-- The list that a configuration describes. -/
def ofEntries (e : AllowEntries) : AllowList :=
  ⟨e.caseSensitive, e.caseInsensitive.map toLower⟩

def isEmpty (a : AllowList) : Bool := a.caseSensitive.isEmpty && a.caseInsensitive.isEmpty

def contains (a : AllowList) (word : List Char) : Bool :=
  let s := String.ofList word
  a.caseSensitive.contains s || a.caseInsensitive.contains (toLower s)

/-- Whether a match must stay. For terms that match inside words the token around the match is
looked up too, so that an allowed "brass" is safe from the term "ass". -/
def exempts (a : AllowList) (t : Term) (m : MatchParts) (h : Array Char) (cache : TokenCache) :
    Bool × TokenCache :=
  if a.isEmpty then (false, cache)
  else
    let span := m.word h
    let word := span.text h
    if a.contains word then (true, cache)
    else if t.method = .within then
      let (token, cache) := cache.enclosing word span h
      (token.any fun s => s.text h ≠ word && a.contains (s.text h), cache)
    else (false, cache)

end AllowList

end Expurgate
