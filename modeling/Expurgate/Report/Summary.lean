import Expurgate.Outcome
import Expurgate.Report.Table
import Expurgate.Report.Theme

/-!
The table of matches by term.
-/

namespace Expurgate

def sampleLimit : Nat := 3

/-- The distinct values among the first ones, in order, up to a limit. -/
def samples (values : List String) : List String :=
  (values.foldl (fun seen v => if seen.contains v then seen else seen ++ [v]) []).take sampleLimit

def SummaryItem.row (i : SummaryItem) : List String :=
  [i.key, toString i.occurrences, String.intercalate ", " (samples i.replacements)]

def totalOccurrences (items : List SummaryItem) : Nat :=
  items.foldl (· + ·.occurrences) 0

/-- The table with its header and the total, or a note that nothing matched. -/
def summaryReport (t : Theme) (colours : Bool) (items : List SummaryItem) : String :=
  line (t.paint colours .header "--- Match Summary ---") ++
    if items.isEmpty then line "No configured terms found."
    else
      Table.render ["Term", "Occurrences", "Rewritten as"] (items.map SummaryItem.row) ++
        line s!"Total: {totalOccurrences items} matches across {items.length} terms."

end Expurgate
