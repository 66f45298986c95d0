import Expurgate.Config.Names

/-!
Whether the terms of a configuration can be told apart: each needs a text, and no two may share one.
Patterns are not checked here; a term that is no pattern is left out when its profile is built.
-/

namespace Expurgate

inductive TermFault where
  | emptyText
  | duplicate (text : String)
  deriving Repr, DecidableEq

def TermFault.message : TermFault → String
  | emptyText => FilterError.emptyTerm.message
  | duplicate text => s!"Duplicate term found: '{text}'."

/-- The faults of a list of terms, given the texts before it. A term may be faulty for itself, or
because an earlier one has the same text. -/
def termFaults (seen : List String) : List TermOptions → List TermFault
  | [] => []
  | t :: rest =>
    if t.text = "" then .emptyText :: termFaults seen rest
    else if seen.contains t.text then .duplicate t.text :: termFaults seen rest
    else termFaults (t.text :: seen) rest

def faultReport (faults : List TermFault) : String :=
  "Term validation failed:\n" ++ String.intercalate "\n" (faults.map TermFault.message)

namespace Config

def faults (c : Config) : List TermFault := termFaults [] c.terms

/-- The mentions of undeclared profiles, in order. -/
def undeclared (c : Config) : List Warning :=
  (c.terms.filter (·.text ≠ "")).flatMap fun t =>
    (t.profiles.filter fun p => !c.profiles.contains p).map fun p => .undeclaredProfile t.text p

/-- Accepts a configuration without faults. All faults are found and not only the first one, so a
user can be told of them together. -/
def validate (c : Config) : Except (List TermFault) Unit :=
  if c.faults.isEmpty then .ok () else .error c.faults

end Config

end Expurgate
