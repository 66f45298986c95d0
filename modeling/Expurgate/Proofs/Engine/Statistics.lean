import Expurgate.Proofs.Engine.History
import Mathlib.Algebra.Group.Nat.Defs
import Mathlib.Data.List.DropRight

/-! What an engine keeps of its matches. The count is that of the matches recorded since it was last
set back, and an observer hears of exactly those recorded while it was the appointed one. Both are
read off a trace of requests and outcomes, which tells nothing of counts and observers. -/
namespace Expurgate

namespace Tally

/-- Of the decisions entered one after another only those that replace a match count, and each of
them is told once. -/
theorem foldl_enter (observer : Option Nat) (t : Tally) (decided : List Resolution) :
    let replaced := decided.filterMap (·.match?)
    decided.foldl (enter observer) t =
      ⟨t.occurrences + UInt64.ofNat replaced.length,
        t.notified ++ replaced.flatMap fun m => observer.toList.map fun id => (id, m)⟩ := by
  induction decided generalizing t with
  | nil => simp
  | cons r rest ih =>
      rw [List.foldl_cons, ih]
      cases r with
      | skipped => rfl
      | exempted record => rfl
      | replaced text record m =>
          simp only [enter, Resolution.match?, List.filterMap_cons, List.length_cons,
            List.flatMap_cons, UInt64.ofNat_add, List.append_assoc]
          congr 1
          rw [UInt64.add_assoc, UInt64.add_comm 1]
          rfl

end Tally

namespace Operation

def resets : Operation → Bool
  | resetCount => true
  | _ => false

/-- The observer after a request. -/
def observerAfter (observer : Option Nat) : Operation → Option Nat
  | setObserver id => some id
  | _ => observer

end Operation

/-- What a request shows: the outcome, if it is an expurgation, and who was told of which match. -/
structure Entry where
  operation : Operation
  outcome : Option Outcome
  notified : List (Nat × TermMatch)

/-- The matches of a recording expurgation. -/
def Entry.recorded (x : Entry) : List TermMatch :=
  match x.operation, x.outcome with
  | .expurgate _ _ true, some outcome => outcome.matched
  | _, _ => []

/-- The entries behind the last one that sets the count back. -/
def sinceReset (trace : List Entry) : List Entry := trace.rtakeWhile (!·.operation.resets)

def heard (id : Nat) (trace : List Entry) : List TermMatch :=
  ((trace.flatMap (·.notified)).filter (·.1 = id)).map (·.2)

/-- The matches recorded while `id` was the appointed observer; `observer` was so at first. -/
def recordedUnder (id : Nat) : Option Nat → List Entry → List TermMatch
  | _, [] => []
  | observer, x :: rest =>
    (if observer = some id then x.recorded else []) ++
      recordedUnder id (x.operation.observerAfter observer) rest

/-- An observer hears the entries of a run one by one, so two runs after each other are heard as
one. -/
theorem heard_append (id : Nat) (trace trace' : List Entry) :
    heard id (trace ++ trace') = heard id trace ++ heard id trace' := by
  simp [heard]

namespace Engine

def entry (e : Engine) : Operation → Entry
  | .expurgate text profile record =>
    let done := (e.expurgate text profile record).1
    ⟨.expurgate text profile record, some done.outcome, done.notified⟩
  | op => ⟨op, none, []⟩

def trace (e : Engine) : List Operation → List Entry
  | [] => []
  | op :: rest => e.entry op :: (e.perform op).2.trace rest

theorem operation_entry (e : Engine) (op : Operation) : (e.entry op).operation = op := by
  cases op <;> rfl

/-- A run may be extended at its end. This is the form that the inductions over runs use. -/
theorem after_concat (e : Engine) (ops : List Operation) (op : Operation) :
    e.after (ops ++ [op]) = ((e.after ops).perform op).2 := by
  induction ops generalizing e with
  | nil => rfl
  | cons first rest ih => exact ih _

theorem trace_concat (e : Engine) (ops : List Operation) (op : Operation) :
    e.trace (ops ++ [op]) = e.trace ops ++ [(e.after ops).entry op] := by
  induction ops generalizing e with
  | nil => rfl
  | cons first rest ih => exact congrArg (e.entry first :: ·) (ih _)

/-- Building a set is no occurrence. -/
theorem occurrences_termSet (e : Engine) (profile : ProfileId) :
    (e.termSet profile).2.1.occurrences = e.occurrences := by
  rcases e.termSet_cases profile with ⟨b, -, hSet⟩ | ⟨-, hSet⟩ <;> rw [hSet]
  rfl

theorem observer_termSet (e : Engine) (profile : ProfileId) :
    (e.termSet profile).2.1.observer = e.observer := by
  rcases e.termSet_cases profile with ⟨b, -, hSet⟩ | ⟨-, hSet⟩ <;> rw [hSet]
  rfl

/-- A recording expurgation counts the matches of its outcome, and tells the observer of them. -/
theorem expurgate_recording (e : Engine) (text : String) (profile : ProfileId) :
    let done := e.expurgate text profile true
    done.2.occurrences = e.occurrences + UInt64.ofNat done.1.outcome.matched.length ∧
      done.2.observer = e.observer ∧
      done.1.notified = done.1.outcome.matched.flatMap fun m =>
        e.observer.toList.map fun id => (id, m) := by
  by_cases hIdle : e.config.settings.filterMethod = .off ∨ text = ""
  · simp [expurgate, hIdle, Outcome.unchanged]
  · have hTally := Tally.foldl_enter e.observer ⟨e.occurrences, []⟩
      ((e.termSet profile).1.set.expurgate (e.termSet profile).2.1.context text).2
    simp only [expurgate, hIdle, if_false, if_true, occurrences_termSet, observer_termSet, hTally,
      List.nil_append]
    exact ⟨rfl, trivial, rfl⟩

/-- A dry expurgation comes out as a recording one and leaves nothing behind. -/
theorem expurgate_dry (e : Engine) (text : String) (profile : ProfileId) :
    let dry := e.expurgate text profile false
    dry.1.outcome = (e.expurgate text profile true).1.outcome ∧
      dry.2.occurrences = e.occurrences ∧ dry.2.observer = e.observer ∧ dry.1.notified = [] := by
  refine ⟨?_, ?_⟩
  · rw [outcome_expurgate, outcome_expurgate]
  · by_cases hIdle : e.config.settings.filterMethod = .off ∨ text = ""
    · simp [expurgate, hIdle]
    · simp [expurgate, hIdle, occurrences_termSet, observer_termSet]

/-- Only an operation that sets the observer changes it, and it does so whether or not there was one
before. -/
theorem observer_perform (e : Engine) (op : Operation) :
    (e.perform op).2.observer = op.observerAfter e.observer := by
  cases op with
  | expurgate text profile record =>
      cases record
      · exact (e.expurgate_dry text profile).2.2.1
      · exact (e.expurgate_recording text profile).2.1
  | termSet profile => exact e.observer_termSet profile
  | rebuild profile => rfl
  | replaceConfig c => rfl
  | resetCount => rfl
  | setObserver id => rfl

/-- What one request does to the count. -/
theorem occurrences_perform (e : Engine) (op : Operation) : (e.perform op).2.occurrences =
    if op.resets then 0 else e.occurrences + UInt64.ofNat (e.entry op).recorded.length := by
  have hNone : e.occurrences = e.occurrences + UInt64.ofNat 0 := (UInt64.add_zero _).symm
  cases op with
  | expurgate text profile record =>
      cases record
      · exact (e.expurgate_dry text profile).2.1.trans hNone
      · exact (e.expurgate_recording text profile).1
  | termSet profile => exact (e.occurrences_termSet profile).trans hNone
  | rebuild profile => exact hNone
  | replaceConfig c => exact hNone
  | resetCount => rfl
  | setObserver id => exact hNone

/-- What one request lets an observer hear. -/
theorem heard_entry (e : Engine) (op : Operation) (id : Nat) :
    heard id [e.entry op] = if e.observer = some id then (e.entry op).recorded else [] := by
  have hTold (observer : Option Nat) (l : List TermMatch) :
      ((l.flatMap fun m => observer.toList.map fun id => (id, m)).filter (·.1 = id)).map (·.2) =
        if observer = some id then l else [] := by
    induction l with
    | nil => simp
    | cons m rest ih =>
        rw [List.flatMap_cons, List.filter_append, List.map_append, ih]
        cases observer with
        | none => simp
        | some other => by_cases hSame : other = id <;> simp [hSame]
  cases op with
  | expurgate text profile record =>
      cases record
      · simp [heard, entry, e.expurgate_dry text profile, Entry.recorded]
      · rw [heard, List.flatMap_singleton, entry, (e.expurgate_recording text profile).2.2]
        exact hTold e.observer _
  | _ => simp [heard, entry, Entry.recorded]

/-- The count is that of the matches recorded since it was set back. -/
theorem occurrences_after (c : Config) (selector : Selector) (ops : List Operation) :
    ((new c selector).after ops).occurrences = UInt64.ofNat
      ((sinceReset ((new c selector).trace ops)).flatMap Entry.recorded).length := by
  induction ops using List.reverseRecOn with
  | nil => rfl
  | append_singleton ops op ih =>
      rw [after_concat, trace_concat, occurrences_perform]
      cases hResets : op.resets with
      | true =>
          rw [sinceReset, List.rtakeWhile_concat_neg _ _ _ (by simp [operation_entry, hResets])]
          rfl
      | false =>
          rw [sinceReset, List.rtakeWhile_concat_pos _ _ _ (by simp [operation_entry, hResets]),
            List.flatMap_append, List.length_append, UInt64.ofNat_add, List.flatMap_singleton, ih]
          rfl

/-- An observer hears of what is recorded while it is the appointed one. -/
theorem heard_trace (e : Engine) (ops : List Operation) (id : Nat) :
    heard id (e.trace ops) = recordedUnder id e.observer (e.trace ops) := by
  induction ops generalizing e with
  | nil => rfl
  | cons op rest ih =>
      have hFirst := heard_append id [e.entry op] ((e.perform op).2.trace rest)
      rw [heard_entry, ih, observer_perform] at hFirst
      rw [trace, recordedUnder, operation_entry]
      exact hFirst

/-- After any requests the count is, modulo the size of its word, that of the matches recorded since
it was last set back, and every observer has heard of exactly the matches recorded while it was the
appointed one, each once and in order. A dry expurgation comes out as a recording one would, and
neither count nor observers learn of it. -/
theorem statistics_after (c : Config) (selector : Selector) (ops : List Operation) :
    let e := (new c selector).after ops
    let trace := (new c selector).trace ops
    e.occurrences.toNat = ((sinceReset trace).flatMap Entry.recorded).length % 2 ^ 64 ∧
    (∀ id, heard id trace = recordedUnder id none trace) ∧
    ∀ text profile,
      let dry := Operation.expurgate text profile false
      (e.entry dry).outcome = (e.entry (.expurgate text profile true)).outcome ∧
        (e.perform dry).2.occurrences = e.occurrences ∧
        ∀ id, heard id (trace ++ [e.entry dry]) = heard id trace := by
  intro e trace
  refine ⟨?_, ?_, ?_⟩
  · rw [show e.occurrences = _ from occurrences_after c selector ops]
    exact UInt64.toNat_ofNat'
  · intro id
    exact heard_trace (new c selector) ops id
  · intro text profile dry
    obtain ⟨hOutcome, hCount, -⟩ := e.expurgate_dry text profile
    refine ⟨congrArg some hOutcome, hCount, fun id => ?_⟩
    rw [heard_append, heard_entry]
    simp [dry, entry, Entry.recorded]

end Engine

end Expurgate
