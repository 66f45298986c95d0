import Expurgate.Engine.Pass
import Expurgate.Config.Validation

/-!
The engine keeps a configuration, the term sets built from it, a count of the matches it replaced,
and who is to be told of them. Every operation gives the engine as it is afterwards.
-/

namespace Expurgate

/-- A term set with a number that no other set of the engine has. Equal numbers stand for one and
the same set, where equal sets might be two. -/
structure BuiltSet where
  id : Nat
  set : TermSet
  deriving Repr, DecidableEq

structure Engine where
  config : Config
  allowList : AllowList
  selector : Selector
  /-- The sets built for each profile since the configuration came into effect. -/
  cache : List (ProfileId × BuiltSet)
  /-- The number of the next set. -/
  nextId : Nat
  /-- The matches replaced by recording expurgations since the last reset. -/
  occurrences : UInt64
  /-- The number of the observer who is told of every recorded match. -/
  observer : Option Nat

/-- The profile that a request is answered with. Where profiles are off, all requests come to the
same. -/
def Config.resolve (c : Config) (profile : ProfileId) : ProfileId :=
  if c.settings.profilesEnabled then profile else .all

/-- The set that a configuration gives for a resolved profile. An undeclared one gets no terms. -/
def Config.freshSet (c : Config) (profile : ProfileId) : TermSet :=
  match c.checkProfile profile with
  | .ok () => .build c profile
  | .error _ => .empty profile

/-- The warnings that go with building that set. -/
def Config.freshWarnings (c : Config) (profile : ProfileId) : List Warning :=
  match c.checkProfile profile, profile with
  | .error _, .named name => [.nothingFiltered name]
  | _, _ => TermSet.buildWarnings c profile

namespace Engine

/-- An engine at work on a configuration for the first time. -/
def new (c : Config) (selector : Selector) : Engine where
  config := c
  allowList := .ofEntries c.allowList
  selector := selector
  cache := []
  nextId := 0
  occurrences := 0
  observer := none

/-- Builds the set of a resolved profile anew and keeps it in place of an older one. Sets of other
profiles are kept. -/
def build (e : Engine) (profile : ProfileId) : BuiltSet × Engine × List Warning :=
  let built : BuiltSet := ⟨e.nextId, e.config.freshSet profile⟩
  (built,
    { e with
      cache := (profile, built) :: e.cache.filter (·.1 ≠ profile)
      nextId := e.nextId + 1 },
    e.config.freshWarnings profile)

/-- The set of a profile, built unless it is kept from before. -/
def termSet (e : Engine) (profile : ProfileId) : BuiltSet × Engine × List Warning :=
  let profile := e.config.resolve profile
  match e.cache.find? (·.1 = profile) with
  | some (_, built) => (built, e, [])
  | none => e.build profile

def rebuild (e : Engine) (profile : ProfileId) : BuiltSet × Engine × List Warning :=
  e.build (e.config.resolve profile)

/-- Puts another configuration into effect and forgets the sets of the old one. The count and the
observer stay. -/
def replaceConfig (e : Engine) (c : Config) : Engine :=
  { e with config := c, allowList := .ofEntries c.allowList, cache := [] }

def resetCount (e : Engine) : Engine := { e with occurrences := 0 }

/-- Appoints the observer who is told of every recorded match from now on. There is one observer at
a time, and none is told of what was recorded before. -/
def setObserver (e : Engine) (id : Nat) : Engine := { e with observer := some id }

/-- What the passes of an expurgation work with. It does not depend on the profile. That is the part
of the set. -/
def context (e : Engine) : PassContext := ⟨e.allowList, ⟨e.config.settings, e.selector⟩⟩

end Engine

structure Expurgated where
  outcome : Outcome
  log : List LogRecord
  warnings : List Warning
  /-- Who was told of which match, in order. -/
  notified : List (Nat × TermMatch)

namespace Engine

/-- Expurgates a text with the terms of a profile. Only a recording expurgation counts its matches
and tells the observer of them. Choices are made either way, so the selector goes on. -/
def expurgate (e : Engine) (text : String) (profile : ProfileId) (record : Bool) :
    Expurgated × Engine :=
  if e.config.settings.filterMethod = .off ∨ text = "" then
    (⟨.unchanged text, [], [], []⟩, e)
  else
    let (built, e, warnings) := e.termSet profile
    let (outcome, decided) := built.set.expurgate e.context text
    let log := decided.filterMap (·.record?)
    let e := { e with selector := e.selector.afterAll decided }
    if record then
      let tally := decided.foldl (Tally.enter e.observer) ⟨e.occurrences, []⟩
      (⟨outcome, log, warnings, tally.notified⟩, { e with occurrences := tally.occurrences })
    else (⟨outcome, log, warnings, []⟩, e)

end Engine

/-- Expurgates a text once, after checking the configuration. -/
def expurgateOnce (c : Config) (selector : Selector) (text : String) (profile : ProfileId) :
    Except (List TermFault) String := do
  c.validate
  return ((Engine.new c selector).expurgate text profile false).1.outcome.filtered

end Expurgate
