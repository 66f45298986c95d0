/-!
Edits that lead from one list to another: runs of items that stay, go or come. The items that stay
or go make up the old list, and those that stay or come the new one.
-/

namespace Expurgate.Diff

inductive EditKind where
  | keep
  | delete
  | insert
  deriving Repr, DecidableEq

/-- A run of items with one fate. The items that stay are in both lists, and the others in one of
them. -/
structure Edit (α : Type) where
  kind : EditKind
  items : List α
  deriving Repr, DecidableEq

variable {α : Type}

def Edit.run (kind : EditKind) (items : List α) : List (Edit α) :=
  if items.isEmpty then [] else [⟨kind, items⟩]

/-- The common beginning of two lists, and what follows it in each. -/
def splitCommon [DecidableEq α] : List α → List α → List α × List α × List α
  | a :: as, b :: bs =>
    if a = b then
      let (common, restA, restB) := splitCommon as bs
      (a :: common, restA, restB)
    else ([], a :: as, b :: bs)
  | as, bs => ([], as, bs)

end Expurgate.Diff
