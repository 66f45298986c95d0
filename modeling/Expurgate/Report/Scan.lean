import Expurgate.Engine.Basic
import Expurgate.Json.Printer

/-!
What a scan tells of a text: the matches that would be replaced.
-/

namespace Expurgate

structure ScanReport where
  profile : ProfileId
  totalMatches : Nat
  wouldModify : Bool
  terms : List SummaryItem
  deriving Repr, DecidableEq

namespace ScanReport

def ofOutcome (profile : ProfileId) (o : Outcome) : ScanReport :=
  ⟨profile, o.matched.length, o.modified, summarize o.matched⟩

def exceeds (r : ScanReport) (threshold : Option Nat) : Bool :=
  threshold.any (· < r.totalMatches)

end ScanReport

def SummaryItem.encode (i : SummaryItem) : Json :=
  .object
    [("term_key", .text i.key), ("occurrences", .count i.occurrences),
     ("original_texts", .texts i.found), ("rewritten_texts", .texts i.replacements)]

def ScanReport.encode (r : ScanReport) : Json :=
  .object
    [("profile", .text r.profile.display), ("total_matches", .count r.totalMatches),
     ("would_modify", .flag r.wouldModify), ("terms", .list (r.terms.map SummaryItem.encode))]

/-- Scans a text. It is expurgated without recording, and the result thrown away. So a scan finds
what a request to expurgate would replace, and neither counts nor observers learn of it. -/
def Engine.scan (e : Engine) (text : String) (profile : ProfileId) :
    ScanReport × Expurgated × Engine :=
  let (done, e) := e.expurgate text profile false
  (.ofOutcome profile done.outcome, done, e)

end Expurgate
