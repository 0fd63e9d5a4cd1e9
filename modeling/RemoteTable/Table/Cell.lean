import RemoteTable.Calendar
import RemoteTable.Json.Printer
import RemoteTable.Table.Column

/-!
The text of a single value in a table.
-/

namespace RemoteTable.Cell

/-- Stands for a value that is not there. -/
def missing : String := "∅"

/-- Stands for a value that has no text. -/
def unknown : String := "?"

/-- A moment as a calendar date. -/
def dateText (millis : Double) : String := (Date.ofMillis? millis).getD unknown

/-- A string is its own text; every other value is shown as compact JSON. -/
def plainText : Json → String
  | .string text => text
  | other => other.text

/-- The text of a value in a column of a kind. -/
def text (kind : ColumnKind) : Json → String
  | .null => missing
  | value =>
    match kind with
    | .integer | .double | .category | .string => plainText value
    | .date =>
      match value with
      | .int n => dateText (Double.ofInt n)
      | .float d => dateText d
      | _ => unknown
    | .json | .interval | .unknown => unknown

end RemoteTable.Cell
