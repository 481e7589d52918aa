/-
Module: BlankCode.Comparison
Purpose: Which items of a list agree with each other, and how many there are apart from agreement.
  An item agrees with itself even if the comparison at hand denies it.
Main exports: Comparison.table, Comparison.countDistinct
-/

namespace BlankCode.Comparison

variable {α : Type}

/-- For every item, whether each of the items agrees with it. -/
def table (agrees : α → α → Bool) (items : List α) : List (List Bool) :=
  items.zipIdx.map fun (left, row) =>
    items.zipIdx.map fun (right, column) => row == column || agrees left right

/-- The items that agree with none before them. -/
def representatives (agrees : α → α → Bool) (items : List α) : List α :=
  let keep (kept : List α) (item : α) : List α :=
    if kept.any (agrees · item) then kept else item :: kept
  (items.foldl keep []).reverse

/-- The number of items of which no two agree. -/
def countDistinct (agrees : α → α → Bool) (items : List α) : Nat :=
  (representatives agrees items).length

end BlankCode.Comparison
