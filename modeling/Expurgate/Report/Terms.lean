import Expurgate.Report.Table
import Expurgate.Report.Theme
import Expurgate.TermSet

/-!
The listing of a profile's terms in the order they are applied, with those that were left out.
-/

namespace Expurgate

/-- What is special about how a term matches. -/
def Term.flags (t : Term) : List String :=
  (if t.repeated then ["repeat"] else []) ++ (if t.separators then ["separators"] else [])
    ++ (if t.shape = .bounded then ["bounded"] else [])

def Term.row (number : Nat) (t : Term) : List String :=
  [toString number, t.text, t.method.name, String.intercalate "," t.flags,
    String.intercalate ", " t.substitutions]

def TermSet.table (s : TermSet) : String :=
  Table.render ["#", "Term", "Method", "Flags", "Substitutions"]
    (s.terms.mapIdx fun i t => t.row (i + 1))

def TermSet.listing (s : TermSet) : String :=
  line s!"Profile '{s.profile.display}': {s.terms.length} terms, longest first." ++
    (if s.terms.isEmpty then "" else s.table) ++
    if s.rejected.isEmpty then ""
    else
      line "Rejected terms:" ++ String.join (s.rejected.map fun e => line ("  - " ++ e.message))

end Expurgate
