/-!
Lines. A line break belongs to the line that it ends.
-/

namespace Expurgate

/-- The lines of a list, each with its line break. Only the last line may be without one, and it is
never empty. -/
def linesWithBreaks {α : Type} [DecidableEq α] (lineBreak : α) : List α → List (List α)
  | [] => []
  | a :: rest =>
    if a = lineBreak then [a] :: linesWithBreaks lineBreak rest
    else
      match linesWithBreaks lineBreak rest with
      | [] => [[a]]
      | line :: others => (a :: line) :: others

/-- A list without its last item, if that is the given one. -/
def dropEnding {α : Type} [DecidableEq α] (ending : α) (l : List α) : List α :=
  if l.getLast? = some ending then l.dropLast else l

def line (s : String) : String := s ++ "\n"

/-- A text that ends with a line break, which is added if it is missing. -/
def closeLine (s : String) : String := if s.toList.getLast? = some '\n' then s else line s

end Expurgate
