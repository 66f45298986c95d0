import Expurgate.Diff.Shortest
import Expurgate.Diff.Slide
import Expurgate.Lines

/-!
The difference of two texts by lines, with a few common lines around each change.
-/

namespace Expurgate.Diff

/-- The common lines shown next to a change. -/
def contextLines : Nat := 3

/-- The edits with neighbouring kept runs joined, and between them deleted lines before inserted
ones. -/
def ordered {α : Type} (deleted inserted : List α) : List (Edit α) → List (Edit α)
  | [] => Edit.run .delete deleted ++ Edit.run .insert inserted
  | e :: rest =>
    match e.kind with
    | .keep =>
      Edit.run .delete deleted ++ Edit.run .insert inserted
        ++ addKept e.items (ordered [] [] rest)
    | .delete => ordered (deleted ++ e.items) inserted rest
    | .insert => ordered deleted (inserted ++ e.items) rest

/-- What is shown of kept lines: those close to a change on either side. -/
def nearChange {α : Type} (changeBefore changeAfter : Bool) (kept : List α) : List α :=
  let n := kept.length
  let near := (if changeBefore then contextLines else 0, if changeAfter then contextLines else 0)
  if n ≤ near.1 + near.2 then kept else kept.take near.1 ++ kept.drop (n - near.2)

/-- Leaves out the kept lines that are far from every change. -/
def elided {α : Type} (changeBefore : Bool) : List (Edit α) → List (Edit α)
  | [] => []
  | e :: rest =>
    if e.kind = .keep then
      Edit.run .keep (nearChange changeBefore (!rest.isEmpty) e.items) ++ elided false rest
    else e :: elided true rest

def ofTexts (old new : String) : List (Edit (List Char)) :=
  elided false (ordered [] [] (gathered
    (shortest (linesWithBreaks '\n' old.toList) (linesWithBreaks '\n' new.toList))))

end Expurgate.Diff
