import Mathlib.Tactic.Common
import RemoteTable.Table.Rendering

/-! Where the values of a row are shown. They follow the order the rows were asked for in, and each
is shown under the column that the order has at its place. -/

namespace RemoteTable

namespace SortOrder

/-- The first key of a name, and its place in the order. -/
def FirstAt (order : SortOrder) (name : String) (place : Nat) (key : SortKey) : Prop :=
  order.keys[place]? = some key ∧ key.name = name ∧
    ∀ earlier other, earlier < place → order.keys[earlier]? = some other → other.name ≠ name

variable {order : SortOrder} {name : String}

theorem indexOf?_eq_some {place : Nat} {key : SortKey} (h : order.FirstAt name place key) :
    order.indexOf? name = some place := by
  obtain ⟨hKey, hName, hFirst⟩ := h
  obtain ⟨hBound, hAt⟩ := List.getElem?_eq_some_iff.mp hKey
  rw [indexOf?, List.findIdx?_eq_some_iff_getElem]
  refine ⟨hBound, by rw [hAt, hName, beq_self_eq_true], fun earlier hEarlier hSame => ?_⟩
  have hOther := List.getElem?_eq_getElem (Nat.lt_trans hEarlier hBound)
  exact hFirst earlier _ hEarlier hOther (beq_iff_eq.mp hSame)

theorem indexOf?_eq_none_iff :
    order.indexOf? name = none ↔ ∀ key ∈ order.keys, key.name ≠ name := by
  rw [indexOf?, List.findIdx?_eq_none_iff]
  exact forall₂_congr fun key _ => beq_eq_false_iff_ne

theorem isVisible_iff : order.isVisible name = true ↔ ∃ key ∈ order.keys, key.name = name := by
  rw [isVisible, Option.isSome_iff_ne_none, ne_eq, indexOf?_eq_none_iff]
  push Not
  rfl

end SortOrder

namespace Rendering

variable {order : SortOrder} {column : Column}

/-- The values of a row stand under the names of the order, each at its place. -/
theorem valueCell_of_firstAt {place : Nat} {key : SortKey}
    (h : order.FirstAt column.name place key) (row : Row) :
    valueCell order row column = ((row.values[place]?).map (Cell.text column.kind)).getD "" := by
  rw [valueCell, SortOrder.indexOf?_eq_some h]

theorem valueCell_of_absent (hAbsent : ∀ key ∈ order.keys, key.name ≠ column.name) (row : Row) :
    valueCell order row column = "" := by
  rw [valueCell, SortOrder.indexOf?_eq_none_iff.mpr hAbsent]

/-- The header of a column in the order has its direction and priority. -/
theorem label_of_firstAt {place : Nat} {key : SortKey}
    (h : order.FirstAt column.name place key) :
    (headerCell order column).label =
      column.name ++ " " ++ arrow key.ascending ++ toString place := by
  have hKey := h.1
  simp [headerCell, SortOrder.orientation?, SortOrder.indexOf?_eq_some h, hKey]

theorem label_of_absent (hAbsent : ∀ key ∈ order.keys, key.name ≠ column.name) :
    (headerCell order column).label = column.name := by
  simp [headerCell, SortOrder.orientation?, SortOrder.indexOf?_eq_none_iff.mpr hAbsent]

theorem length_rowsFrom (order : SortOrder) (schema : Schema) (start shown : Nat)
    (rows : List Row) :
    (rowsFrom schema order start shown rows).length = rows.length := by
  induction rows generalizing shown with
  | nil => rfl
  | cons row rest ih => rw [rowsFrom, List.length_cons, List.length_cons, ih]

/-- The rows of a rendering are those of the snapshot, one for one, and each begins where those in front
of it end. -/
theorem getElem?_rowsFrom (order : SortOrder) (schema : Schema) (start shown : Nat)
    (rows : List Row) (place : Nat) :
    (rowsFrom schema order start shown rows)[place]? = rows[place]?.map (rowCells schema order
      (saturatingAdd start ((rows.take place).foldl
        (fun shown row => saturatingAdd shown row.count.toNat) shown))) := by
  induction rows generalizing shown place with
  | nil => rfl
  | cons head rest ih =>
      cases place with
      | zero => rfl
      | succ place =>
          rw [rowsFrom, List.getElem?_cons_succ, List.getElem?_cons_succ, List.take_succ_cons,
            List.foldl_cons]
          exact ih _ place

/-- The text that a row shows in a column, if its values follow an order. -/
def ShowsValue (order : SortOrder) (row : Row) (column : Column) (text : String) : Prop :=
  (∀ place key, order.FirstAt column.name place key →
    text = ((row.values[place]?).map (Cell.text column.kind)).getD "") ∧
  ((∀ key ∈ order.keys, key.name ≠ column.name) → text = "")

/-- The header cell of a column, if the rows below it follow an order. -/
def ShowsOrder (order : SortOrder) (column : Column) (cell : HeaderCell) : Prop :=
  cell.name = column.name ∧
  (cell.visible = true ↔ ∃ key ∈ order.keys, key.name = column.name) ∧
  (∀ place key, order.FirstAt column.name place key →
    cell.label = column.name ++ " " ++ arrow key.ascending ++ toString place) ∧
  ((∀ key ∈ order.keys, key.name ≠ column.name) → cell.label = column.name)

theorem showsOrder_headerCell (order : SortOrder) (column : Column) :
    ShowsOrder order column (headerCell order column) :=
  ⟨rfl, SortOrder.isVisible_iff, fun _ _ hFirst => label_of_firstAt hFirst, label_of_absent⟩

/-- A rendering of rows that follow an order has every value under its column. Position and count
stand in front of the columns of the schema. -/
structure Places (rendering : Rendering) (schema : Schema) (order : SortOrder) (data : Snapshot) :
    Prop where
  rows : rendering.rows.length = (rowsOf data).length
  value : ∀ (place index : Nat) (row : Row) (column : Column), (rowsOf data)[place]? = some row →
    schema.columns[index]? = some column →
    ∃ (cells : List String) (text : String), rendering.rows[place]? = some cells ∧
      cells[index + 2]? = some text ∧ ShowsValue order row column text
  header : ∀ (index : Nat) (column : Column), schema.columns[index]? = some column →
    ∃ cell, rendering.header[index + 2]? = some cell ∧ ShowsOrder order column cell

/-- Everything in a rendering stands in its place. -/
theorem places_ofSnapshot (schema : Schema) (order : SortOrder) (data : Snapshot) :
    (ofSnapshot schema order data).Places schema order data where
  rows := length_rowsFrom order schema _ _ _
  value place index row column hRow hColumn := by
    have hCells := getElem?_rowsFrom order schema
      ((data.startPosition.map UInt64.toNat).getD 0) 0 (rowsOf data) place
    rw [hRow, Option.map_some] at hCells
    refine ⟨_, valueCell order row column, hCells, ?_, ?_, ?_⟩
    · rw [rowCells, List.getElem?_cons_succ, List.getElem?_cons_succ, List.getElem?_map, hColumn]
      rfl
    · exact fun place key hFirst => valueCell_of_firstAt hFirst row
    · exact fun hAbsent => valueCell_of_absent hAbsent row
  header index column hColumn := by
    refine ⟨headerCell order column, ?_, showsOrder_headerCell order column⟩
    change (headerCells order schema.columns)[index + 2]? = _
    rw [headerCells, List.getElem?_map, List.getElem?_cons_succ, List.getElem?_cons_succ, hColumn]
    rfl

end Rendering

end RemoteTable
