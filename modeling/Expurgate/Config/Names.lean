import Expurgate.Error

/-!
Reading the names of methods and profiles as users write them.
-/

namespace Expurgate

open Unicode

def asciiLower (s : List Char) : List Char := s.map Char.toLower

/-- The method a user names, in any case and with blanks around it. -/
def FilterMethod.parse (s : String) : Except FilterError FilterMethod :=
  let name := String.ofList (asciiLower (trim s.toList))
  match ofName? name with
  | some m => .ok m
  | none => .error (.unknownMethod name)

/-- The profile a user names. A star and the word "all" stand for all terms. Nothing else has a
meaning of its own, so any other name is looked up as it is. -/
def ProfileId.parse (s : String) : Except FilterError ProfileId :=
  let name := trim s.toList
  if name.isEmpty then .error .emptyProfileName
  else if name = ['*'] ∨ asciiLower name = ['a', 'l', 'l'] then .ok .all
  else .ok (.named (String.ofList name))

/-- Whether a profile can be resolved against a configuration. -/
def Config.checkProfile (c : Config) : ProfileId → Except FilterError Unit
  | .all => .ok ()
  | .named name => if c.profiles.contains name then .ok () else .error (.unknownProfile name)

end Expurgate
