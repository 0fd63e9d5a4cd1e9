import RemoteTable.Fault
import RemoteTable.Wire.Record

/-!
Columns of a remote table and the schema that lists them.
-/

namespace RemoteTable

/-- Kind of the values in a column; `unknown` stands for every kind not listed here. -/
inductive ColumnKind where
  | category
  | json
  | string
  | integer
  | double
  | date
  | interval
  | unknown
deriving DecidableEq

namespace ColumnKind

def name : ColumnKind → String
  | category => "Category"
  | json => "Json"
  | string => "String"
  | integer => "Integer"
  | double => "Double"
  | date => "Date"
  | interval => "Interval"
  | unknown => "Unknown"

def known : List ColumnKind := [category, json, string, integer, double, date, interval]

/-- The kind with a given name, `unknown` for any other name. -/
def ofName (name : String) : ColumnKind := (known.find? (·.name == name)).getD unknown

/-- Whether the smallest and largest value of a column can be asked for. -/
def hasRange : ColumnKind → Bool
  | json | string | category => false
  | integer | double | date | interval | unknown => true

/-- A kind is its name, or an object whose only key is the name and whose value is null. -/
instance : Wire ColumnKind where
  encode kind := .string kind.name
  decode
    | .string name => .ok (ofName name)
    | .object [(name, .null)] => .ok (ofName name)
    | .object [(_, value)] => .error (Wire.wrongType value "unit")
    | .object _ => .error (.invalidValue .map "map with a single key")
    | other => .error (Wire.wrongType other "string or map")
  shape := .name

end ColumnKind

/-- Description of a column. -/
structure Column where
  kind : ColumnKind
  name : String
  allowMissing : Bool
deriving DecidableEq

instance : Wire Column :=
  Wire.Record.of Column.mk
    |>.field "kind" Column.kind
    |>.field "name" Column.name
    |>.field "allowMissing" Column.allowMissing
    |>.wire "ColumnDescription"

/-- The columns of a table in their order. -/
structure Schema where
  columns : List Column
deriving DecidableEq

namespace Schema

instance : Wire Schema where
  encode schema := Wire.encode schema.columns
  decode value := (Wire.decode value).map Schema.mk
  shape := Wire.shape (List Column)

def length (schema : Schema) : Nat := schema.columns.length

/-- Place of the first column with a name. -/
def indexOf? (schema : Schema) (name : String) : Option Nat :=
  schema.columns.findIdx? (·.name == name)

/-- The first column with a name. -/
def find? (schema : Schema) (name : String) : Option Column :=
  schema.columns.find? (·.name == name)

/-- The column at a place. -/
def get? (schema : Schema) (index : Nat) : Option Column := schema.columns[index]?

/-- The column at a place that has to exist. -/
def get (schema : Schema) (index : Nat) : Except Fault Column :=
  match schema.get? index with
  | some column => .ok column
  | none => .error (.indexOutOfBounds schema.length index)

end Schema

end RemoteTable
