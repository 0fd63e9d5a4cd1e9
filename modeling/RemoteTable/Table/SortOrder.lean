import RemoteTable.Table.Column

/-!
The columns a view asks for, in the order in which they are displayed and sorted by. Bringing a
column to the front makes it the primary sort key.
-/

namespace RemoteTable

/-- A column together with the direction it is sorted in. -/
structure SortKey where
  column : Column
  ascending : Bool
deriving DecidableEq

def SortKey.name (key : SortKey) : String := key.column.name

instance : Wire SortKey :=
  Wire.Record.of SortKey.mk
    |>.field "columnDescription" SortKey.column
    |>.field "isAscending" SortKey.ascending
    |>.wire "ColumnSortOrientation"

/-- The visible columns with their directions, by falling priority. -/
structure SortOrder where
  keys : List SortKey
deriving DecidableEq

instance : Wire SortOrder :=
  Wire.Record.of SortOrder.mk
    |>.field "sortOrientationList" SortOrder.keys
    |>.wire "RecordOrder"

namespace SortOrder

def empty : SortOrder := ⟨[]⟩

/-- Place of the first key with a name. -/
def indexOf? (order : SortOrder) (name : String) : Option Nat :=
  order.keys.findIdx? (·.name == name)

/-- Removes the first key with a name. -/
def hide (order : SortOrder) (name : String) : SortOrder :=
  ⟨order.keys.eraseP (·.name == name)⟩

/-- Makes a column the primary sort key. -/
def promote (order : SortOrder) (key : SortKey) : SortOrder :=
  ⟨key :: (order.hide key.name).keys⟩

/-- Adds a column at the end, unless one of its name is there. -/
def appendIfAbsent (order : SortOrder) (key : SortKey) : SortOrder :=
  if (order.indexOf? key.name).isNone then ⟨order.keys ++ [key]⟩ else order

/-- Direction and priority of a column. -/
def orientation? (order : SortOrder) (name : String) : Option (Bool × Nat) := do
  let index ← order.indexOf? name
  let key ← order.keys[index]?
  return (key.ascending, index)

def isVisible (order : SortOrder) (name : String) : Bool := (order.indexOf? name).isSome

def isAscending? (order : SortOrder) (name : String) : Option Bool :=
  (order.orientation? name).map (·.1)

def priority? (order : SortOrder) (name : String) : Option Nat :=
  (order.orientation? name).map (·.2)

end SortOrder

end RemoteTable
