import RemoteTable.Fault
import RemoteTable.Number.Quantity
import RemoteTable.Table.Cell
import RemoteTable.Table.Snapshot

/-!
The range of a column, shown over the table.
-/

namespace RemoteTable

structure Range where
  column : Column
  statistics : ColumnStatistics
deriving DecidableEq

namespace Range

def title (range : Range) : String := "Range of " ++ range.column.name

/-- A bound is a date, a whole number or a measurement, by the kind of the column. -/
def boundText (range : Range) (value : Double) : String :=
  match range.column.kind with
  | .date => Cell.dateText value
  | .integer => toString value.toInt64
  | _ => Quantity.significant value

/-- The text of a range. Present and missing values have to be countable together. -/
def lines (range : Range) : Except Fault (List String) := do
  let present := range.statistics.presentCount.toNat
  let missing := range.statistics.missingCount.toNat
  let total ← checkedAdd present missing
  let share := if 0 < total then
      ["Missing: " ++ Quantity.percent (Double.ofNat missing / Double.ofNat total)
        ++ " of all rows"]
    else []
  return ["Min:     " ++ range.boundText range.statistics.min,
    "Max:     " ++ range.boundText range.statistics.max,
    "Present: " ++ Quantity.grouped present,
    "Missing: " ++ Quantity.grouped missing] ++ share

end Range

end RemoteTable
