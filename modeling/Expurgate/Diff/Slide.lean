import Expurgate.Diff.Edit

/-!
Gathering edits. A run of deleted or inserted items that begins or ends like the items kept next to
it may slide along them without changing either list. Sliding each run up and then down as far as it
goes lets it join other runs of its kind.
-/

namespace Expurgate.Diff

variable {α : Type} [DecidableEq α]

/-- Slides a run over kept items that stand in front of it, the nearest first. Gives the run, the
items still in front of it, and those that it passed. -/
def slideOver (run : List α) : List α → List α × List α × List α
  | [] => (run, [], [])
  | kept :: further =>
    if run.getLast? = some kept then
      let (run, ahead, passed) := slideOver (kept :: run.dropLast) further
      (run, ahead, passed ++ [kept])
    else (run, kept :: further, [])

def addKept (items : List α) : List (Edit α) → List (Edit α)
  | [] => Edit.run .keep items
  | e :: rest =>
    if e.kind = .keep then ⟨.keep, items ++ e.items⟩ :: rest else Edit.run .keep items ++ e :: rest

/-- Slides a run up. The edits in front of it are given nearest first. -/
def slideUp (kind : EditKind) (run : List α) (after : List (Edit α)) :
    List (Edit α) → List (Edit α) × List α × List (Edit α)
  | [] => ([], run, after)
  | e :: before =>
    if e.kind = .keep then
      let (run, ahead, passed) := slideOver run e.items.reverse
      let after := addKept passed after
      if ahead.isEmpty then slideUp kind run after before
      else (⟨.keep, ahead.reverse⟩ :: before, run, after)
    else if e.kind = kind then slideUp kind (e.items ++ run) after before
    else slideUp kind run (e :: after) before

def Edit.reverse (e : Edit α) : Edit α := ⟨e.kind, e.items.reverse⟩

/-- Slides a run down: up, in the lists read from their end. -/
def slideDown (kind : EditKind) (run : List α) (before after : List (Edit α)) :
    List (Edit α) × List α × List (Edit α) :=
  let (after, run, before) :=
    slideUp kind run.reverse (before.map Edit.reverse) (after.map Edit.reverse)
  (before.map Edit.reverse, run.reverse, after.map Edit.reverse)

/-- Gathers the runs of one kind, of which there are at most `count` in `after`. The edits of
`before` are done with and come nearest first. -/
def gather (kind : EditKind) : Nat → List (Edit α) → List (Edit α) → List (Edit α)
  | 0, before, after => before.reverse ++ after
  | count + 1, before, after =>
    match after.dropWhile (·.kind ≠ kind) with
    | [] => before.reverse ++ after
    | e :: after' =>
      let before := (after.takeWhile (·.kind ≠ kind)).reverse ++ before
      let (before, run, after) := slideUp kind e.items after' before
      let (before, run, after) := slideDown kind run before after
      gather kind count (⟨kind, run⟩ :: before) after

def gathered (edits : List (Edit α)) : List (Edit α) :=
  let deleted := gather .delete edits.length [] edits
  gather .insert deleted.length [] deleted

end Expurgate.Diff
