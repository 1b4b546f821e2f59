import TagScript.Fault

/-!
# Rows

The items of a row by their places, counted from its beginning or, below zero, from its end.
-/

namespace TagScript.Row

/-- The item at a place; a negative place counts from the end. -/
def item {α : Type} (row : List α) (place : Int) : Except Fault α :=
  let place := if place < 0 then place + row.length else place
  if place < 0 then .error .outOfRange
  else
    match row[place.toNat]? with
    | some a => .ok a
    | none => .error .outOfRange

/-- The last item is the one before the end. -/
theorem item_last {α : Type} (row : List α) (a : α) : item (row ++ [a]) (-1) = .ok a := by
  have h : (-1 + ((row.length : Int) + 1)) = row.length := by omega
  simp [item, h]

end TagScript.Row
