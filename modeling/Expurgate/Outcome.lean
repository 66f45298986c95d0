import Expurgate.AllowList
import Expurgate.Replacer

/-!
What an expurgation reports: the matches it replaced, their summary by term, and the lines it
leaves in the debug log.
-/

namespace Expurgate

/-- A match that was replaced. The offsets count bytes of the text as it stood when the term had its
turn. -/
structure TermMatch where
  key : String
  found : String
  replacement : String
  start : Nat
  stop : Nat
  deriving Repr, DecidableEq

structure SummaryItem where
  key : String
  occurrences : Nat
  found : List String
  replacements : List String
  deriving Repr, DecidableEq

/-- Adds a match to the item of its term, or a new item at the end. -/
def addToSummary (m : TermMatch) : List SummaryItem → List SummaryItem
  | [] => [⟨m.key, 1, [m.found], [m.replacement]⟩]
  | item :: rest =>
    if item.key = m.key then
      ⟨item.key, item.occurrences + 1, item.found ++ [m.found],
        item.replacements ++ [m.replacement]⟩ :: rest
    else item :: addToSummary m rest

/-- The matches by term, in the order of each term's first match. A match adds one to the item of
its term and may add to the words that are shown for it. -/
def summarize (l : List TermMatch) : List SummaryItem :=
  l.foldl (fun summary m => addToSummary m summary) []

structure Outcome where
  input : String
  filtered : String
  modified : Bool
  matched : List TermMatch
  deriving Repr, DecidableEq

def Outcome.unchanged (text : String) : Outcome := ⟨text, text, false, []⟩

/-- What was done with one match, for the debug log. It is written when the decision is made, in the
order of the matches, and before the text is put together. -/
inductive LogRecord where
  | replace (key found replacement : String)
  | exempt (key found : String)
  deriving Repr, DecidableEq

/-- The longest text whose length a mask does not tell. -/
def maskLimit : Nat := 8

/-- A text that must not appear in a log. Only the length of longer ones shows. Short ones all look
alike. -/
def maskSensitive (s : String) : String :=
  if s.length ≤ maskLimit then "[MASKED]" else s!"[MASKED: {s.length} chars]"

/-- The line of a record. Matched text shows only where that is explicitly allowed. -/
def LogRecord.line (allowText : Bool) (r : LogRecord) : String :=
  let shown (s : String) := if allowText then s else maskSensitive s
  match r with
  | replace key found replacement =>
    s!"Rewrite: term='{shown key}', original='{shown found}', replacement='{replacement}'"
  | exempt key found =>
    s!"Allow list kept match for term '{shown key}': '{shown found}'"

end Expurgate
