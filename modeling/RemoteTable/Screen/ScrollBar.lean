import RemoteTable.Fault
import RemoteTable.Number.Double

/-!
The scroll bar: which of its cells stand for the displayed part of the table.
-/

namespace RemoteTable.ScrollBar

/-- First cell and the cell behind the last one of the displayed part, which has at least one
cell. -/
def span (top bottom : Double) (height : Nat) : Except Fault (Nat × Nat) := do
  let first := (top * Double.ofNat height).floorIndex
  let next ← checkedAdd first 1
  return (first, max (bottom * Double.ofNat height).ceilIndex next)

/-- The cells of a bar, true where they stand for the displayed part. -/
def marks (scroll : Option (Double × Double)) (height : Nat) : Except Fault (List Bool) :=
  match scroll with
  | none => .ok (List.replicate height false)
  | some (top, bottom) =>
    (span top bottom height).map fun (first, last) =>
      (List.range height).map fun i => first ≤ i && i < last

end RemoteTable.ScrollBar
