import Expurgate.Diff.Lines
import Expurgate.Report.Theme

/-!
The view of what an expurgation changed, line by line.
-/

namespace Expurgate

/-- A line of the view. Deleted lines begin with a minus sign, inserted ones with a plus sign, and
the others with a blank. -/
def differenceLine (t : Theme) (colours : Bool) (kind : Diff.EditKind) (s : List Char) : String :=
  let shown := String.ofList (dropEnding '\n' s)
  match kind with
  | .keep => line (" " ++ shown)
  | .delete => line (t.paint colours .diffRemoved ("-" ++ shown))
  | .insert => line (t.paint colours .diffAdded ("+" ++ shown))

def differenceReport (t : Theme) (colours : Bool) (before after : String) : String :=
  let edits := Diff.ofTexts before after
  line (t.paint colours .diffHeader "--- Diff View ---") ++
    String.join (edits.flatMap fun e => e.items.map (differenceLine t colours e.kind)) ++
    (if edits.all (·.kind = .keep) then line "No changes detected." else "") ++
    line (t.paint colours .diffHeader "-----------------")

end Expurgate
