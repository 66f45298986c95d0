import Expurgate.Config.Basic

/-!
Putting a user's configuration over the built-in one.
-/

namespace Expurgate

/-- Puts one term into a list: in the place of the last term with the same text, or at the end. -/
def putTerm (t : TermOptions) : List TermOptions → List TermOptions
  | [] => [t]
  | u :: rest =>
    if u.text = t.text ∧ !rest.any (·.text = t.text) then t :: rest else u :: putTerm t rest

/-- Adds those values that are not there yet, each once and in order. -/
def addMissing (values : List String) : List String → List String
  | [] => values
  | v :: rest => addMissing (if values.contains v then values else values ++ [v]) rest

/-- The user's terms take the place of built-in terms with the same text, new ones follow at the
end. Profiles and allowed words are united, and the user's settings hold. -/
def Config.merge (base user : Config) : Config where
  settings := user.settings
  profiles := addMissing base.profiles user.profiles
  terms := user.terms.foldl (fun terms t => putTerm t terms) base.terms
  allowList :=
    ⟨addMissing base.allowList.caseSensitive user.allowList.caseSensitive,
      addMissing base.allowList.caseInsensitive user.allowList.caseInsensitive⟩

/-- Without a user's configuration the built-in one holds. -/
def Config.mergeOption (base : Config) : Option Config → Config
  | some user => base.merge user
  | none => base

end Expurgate
