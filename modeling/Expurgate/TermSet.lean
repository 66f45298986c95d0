import Expurgate.Term.Basic

/-!
The terms of one profile, ready to be applied. Longer terms come first, so that "go to hell" is
treated before "hell" gets its turn.
-/

namespace Expurgate

/-- The terms of a profile in the order they are applied, the texts by which they are known, one
beside each term, and why others were left out. -/
structure TermSet where
  profile : ProfileId
  terms : List Term
  keys : List String
  rejected : List FilterError
  deriving Repr, DecidableEq

namespace TermSet

def empty (profile : ProfileId) : TermSet := ⟨profile, [], [], []⟩

/-- The configured terms of a profile, longest first, so that a shorter one does not take a part of
them away. Terms of one length keep their order. -/
def candidates (c : Config) (profile : ProfileId) : List TermOptions :=
  (c.terms.filter (·.belongsTo profile)).mergeSort fun a b => b.text.length ≤ a.text.length

/-- The terms of a profile with the outcome of preparing each. -/
def compiled (c : Config) (profile : ProfileId) : List (TermOptions × Except FilterError Term) :=
  (candidates c profile).map fun t => (t, Term.compile t c.settings)

/-- Builds the set of a profile. A term that cannot be prepared is left out and does not keep the
others from being used. -/
def build (c : Config) (profile : ProfileId) : TermSet where
  profile := profile
  terms := (compiled c profile).filterMap fun (_, r) => r.toOption
  keys := (compiled c profile).filterMap fun (t, r) => r.toOption.map fun _ => t.text
  rejected := (compiled c profile).filterMap fun (_, r) =>
    match r with
    | .ok _ => none
    | .error e => some e

def buildWarnings (c : Config) (profile : ProfileId) : List Warning :=
  (compiled c profile).filterMap fun (t, r) =>
    match r with
    | .ok _ => none
    | .error e => some (.skippedTerm t.text profile e)

/-- The terms under their keys, in the order they are applied. -/
def entries (s : TermSet) : List (String × Term) := s.keys.zip s.terms

def get? (s : TermSet) (i : Nat) : Option Term := s.terms[i]?

/-- The first place of a key. Where two terms are written alike, the second one is not found by its
key. -/
def position (s : TermSet) (key : String) : Option Nat := s.keys.findIdx? (· = key)

/-- The term at the first place of a key. -/
def term? (s : TermSet) (key : String) : Option Term := (s.position key).bind s.get?

end TermSet

end Expurgate
