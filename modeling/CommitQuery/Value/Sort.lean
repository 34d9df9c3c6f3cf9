-- Sorting by a relation that says which items have to precede which. Items that
-- it leaves open stay in their order. A short list is sorted by insertion and a
-- long one by merging; where the relation ranks all items, both give the same.

namespace CommitQuery.Sort

variable {α : Type}

/-- An item put into items that are held last first: in front of the last ones that
it has to precede, and behind all others. -/
def settle (precedes : α → α → Bool) (item : α) : List α → List α
  | [] => [item]
  | last :: before =>
    if precedes item last then last :: settle precedes item before else item :: last :: before

/-- The items, settled one after the other. -/
def byInsertion (precedes : α → α → Bool) (items : List α) : List α :=
  (items.foldl (fun settled item => settle precedes item settled) []).reverse

/-- How long a list may be that is sorted by insertion. -/
def shortLength : Nat := 20

/-- The items in order. -/
def sorted (precedes : α → α → Bool) (items : List α) : List α :=
  if items.length ≤ shortLength then byInsertion precedes items
  else items.mergeSort fun a b => !precedes b a

end CommitQuery.Sort
