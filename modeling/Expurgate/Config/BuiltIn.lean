import Expurgate.Config.Basic

/-!
The configuration that holds before a user's file is merged over it.
-/

namespace Expurgate

def builtInTerms : List TermOptions :=
  [(TermOptions.ofText "damn").withSubstitution "dang" |>.withSubstitution "darn",
   (TermOptions.ofText "goddamn").withSubstitution "gosh darn",
   (TermOptions.ofText "hell").withSubstitution "heck",
   (TermOptions.ofText "go to hell").withSubstitution "go away",
   (TermOptions.ofText "shit").withMethod .within |>.withRepeat true
     |>.withSubstitution "crap" |>.withSubstitution "shoot",
   (TermOptions.ofText "bitch").withMethod .whole |>.withSubstitution "jerk",
   (TermOptions.ofText "ass").withMethod .within |>.withSubstitution "butt",
   (TermOptions.ofText "crap").withSubstitution "junk" |>.inProfile "kids",
   (TermOptions.ofText "stupid").withSubstitution "silly" |>.inProfile "kids"]

def Config.builtIn : Config where
  settings := .default
  profiles := ["default", "kids"]
  terms := builtInTerms
  allowList :=
    ⟨[], ["assassin", "bass", "brass", "class", "compass", "glass", "grass", "mass", "pass"]⟩

end Expurgate
