import RemoteTable.Table.Column

/-!
What a table answers: a window of its rows, and statistics of one of its columns.
-/

namespace RemoteTable

/-- A run of equal rows. The values stand in the order the rows were asked for in. -/
structure Row where
  count : UInt64
  values : List Json
deriving DecidableEq

instance : Wire Row :=
  Wire.Record.of Row.mk
    |>.field "count" Row.count
    |>.field "values" Row.values
    |>.wire "RowView"

/-- A window of a table, enough to show it without any earlier one. -/
structure Snapshot where
  schema : Option Schema
  rowCount : UInt64
  startPosition : Option UInt64
  rows : Option (List Row)
deriving DecidableEq

instance : Wire Snapshot :=
  Wire.Record.of Snapshot.mk
    |>.field "schema" Snapshot.schema
    |>.field "rowCount" Snapshot.rowCount
    |>.field "startPosition" Snapshot.startPosition
    |>.field "rows" Snapshot.rows
    |>.wire "TableDataView"

/-- Statistics of a column. Every field is zero if it is left out. -/
structure ColumnStatistics where
  momentCount : UInt32
  min : Double
  max : Double
  presentCount : UInt64
  missingCount : UInt64
deriving DecidableEq

instance : Wire ColumnStatistics :=
  Wire.Record.of ColumnStatistics.mk
    |>.optional "momentCount" ColumnStatistics.momentCount 0
    |>.optional "min" ColumnStatistics.min Double.zero
    |>.optional "max" ColumnStatistics.max Double.zero
    |>.optional "presentCount" ColumnStatistics.presentCount 0
    |>.optional "missingCount" ColumnStatistics.missingCount 0
    |>.wire "BasicColStats"

end RemoteTable
