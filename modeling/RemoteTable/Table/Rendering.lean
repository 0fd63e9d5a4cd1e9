import RemoteTable.Fault
import RemoteTable.Number.Quantity
import RemoteTable.Table.Cell
import RemoteTable.Table.Snapshot
import RemoteTable.Table.SortOrder

/-!
A snapshot as text: header cells, rows of cells, a footer, and the displayed part of the table.

```
(position)  (count)  name ⇓1  age ⇑0
        10        3  Mike          0
        13        6  Jon           1
Showing 9 of 20 rows (45%)
```
-/

namespace RemoteTable

structure HeaderCell where
  name : String
  label : String
  kind : ColumnKind
  /-- Whether the column is part of the order of the rows. -/
  visible : Bool
deriving DecidableEq

/-- Everything that is drawn of a table. -/
structure Rendering where
  header : List HeaderCell
  rows : List (List String)
  footer : Option String
  /-- Top and bottom of the displayed rows as fractions of the table. -/
  scroll : Option (Double × Double)
deriving DecidableEq

namespace Rendering

def empty : Rendering := ⟨[], [], none, none⟩

def positionColumn : Column := ⟨.integer, "(position)", false⟩

def countColumn : Column := ⟨.integer, "(count)", false⟩

def arrow (ascending : Bool) : String := if ascending then "⇓" else "⇑"

/-- A sorted column shows its direction and priority behind its name. -/
def headerCell (order : SortOrder) (column : Column) : HeaderCell :=
  let label := match order.orientation? column.name with
    | some (ascending, priority) =>
      column.name ++ " " ++ arrow ascending ++ toString priority
    | none => column.name
  ⟨column.name, label, column.kind, order.isVisible column.name⟩

/-- Position and count come first, then the columns of the schema. -/
def headerCells (order : SortOrder) (columns : List Column) : List HeaderCell :=
  (positionColumn :: countColumn :: columns).map (headerCell order)

/-- The text of a column in a row. The values of a row follow the order, not the schema. -/
def valueCell (order : SortOrder) (row : Row) (column : Column) : String :=
  match order.indexOf? column.name with
  | some index => ((row.values[index]?).map (Cell.text column.kind)).getD ""
  | none => ""

/-- The cells of a row in front of which `position` rows of the table stand. -/
def rowCells (schema : Schema) (order : SortOrder) (position : Nat) (row : Row) : List String :=
  Quantity.significant (Double.ofNat position)
    :: Quantity.significant (Double.ofNat row.count.toNat)
    :: schema.columns.map (valueCell order row)

/-- The cells of rows; `shown` is the number of table rows displayed in front of them. -/
def rowsFrom (schema : Schema) (order : SortOrder) (start : Nat) : Nat → List Row →
    List (List String)
  | _, [] => []
  | shown, row :: rest =>
    rowCells schema order (saturatingAdd start shown) row
      :: rowsFrom schema order start (saturatingAdd shown row.count.toNat) rest

/-- How many rows of the table the rows of a snapshot stand for. -/
def displayedCount (rows : List Row) : Nat :=
  rows.foldl (fun shown row => saturatingAdd shown row.count.toNat) 0

def footerText (shown total : Nat) : String :=
  let share := if 0 < total then
      " (" ++ Quantity.percent (Double.ofNat shown / Double.ofNat total) ++ ")"
    else ""
  "Showing " ++ Quantity.grouped shown ++ " of " ++ Quantity.grouped total ++ " rows" ++ share

/-- The displayed part of a table of which the first displayed row and the size are known. -/
def scrollRange (start total : Option UInt64) (shown : Nat) : Option (Double × Double) :=
  match start, total with
  | some start, some total =>
    if 0 < total.toNat then
      some (Double.ofNat start.toNat / Double.ofNat total.toNat,
        Double.ofNat (saturatingAdd start.toNat shown) / Double.ofNat total.toNat)
    else none
  | _, _ => none

/-- Rows of a snapshot. -/
def rowsOf (data : Snapshot) : List Row := data.rows.getD []

/-- A snapshot whose rows have the given order, of a table with the given schema. -/
def ofSnapshot (schema : Schema) (order : SortOrder) (data : Snapshot) : Rendering :=
  let rows := rowsOf data
  let start := (data.startPosition.map UInt64.toNat).getD 0
  let shown := displayedCount rows
  ⟨headerCells order schema.columns, rowsFrom schema order start 0 rows,
    some (footerText shown data.rowCount.toNat),
    scrollRange data.startPosition (some data.rowCount) shown⟩

/-- All that is drawn while the columns of a table are not known. -/
def withoutSchema (order : SortOrder) : Rendering := ⟨headerCells order [], [], none, none⟩

end Rendering

end RemoteTable
