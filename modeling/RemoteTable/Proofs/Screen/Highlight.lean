import RemoteTable.Screen.Draw

/-! What is highlighted in a table. Every cell is drawn upright, apart from the header cell of the selected
column. -/

namespace RemoteTable.Screen

/-- The header cell at this place shows the label reversed, and no other cell of the table is reversed. -/
structure TableWidget.Highlights (widget : TableWidget) (place : Nat) (label : String) : Prop where
  label : ∃ shown, widget.header[place]? = some shown ∧ shown.text = label
  header : ∀ index shown, widget.header[index]? = some shown →
    (shown.style.reversed = true ↔ index = place)
  rows : ∀ row ∈ widget.rows, ∀ shown ∈ row, shown.style.reversed = false

theorem getElem?_headerCells (selected index : Nat) (header : List HeaderCell) :
    (headerCells selected header)[index]? =
      header[index]?.map fun cell => ⟨cell.label, headerStyle selected index cell⟩ := by
  rw [headerCells, List.getElem?_map, List.getElem?_zipIdx, Option.map_map]
  simp [Function.comp_def]

/-- The column of the data cells is marked by its colour only. -/
theorem reversed_of_mem_dataCells {selected : Nat} {cells : List String} {shown : StyledCell}
    (h : shown ∈ dataCells selected cells) : shown.style.reversed = false := by
  obtain ⟨⟨cell, index⟩, -, rfl⟩ := List.mem_map.mp h
  show (cellStyle selected index).reversed = false
  unfold cellStyle
  split <;> rfl

/-- The table of a view highlights the header cell of the column under the cursor. -/
theorem highlights_ofView {view : View} {cell : HeaderCell}
    (hCell : view.rendering.header[view.cursor + pseudoColumns]? = some cell) (limit : Nat) :
    (TableWidget.ofView view limit).Highlights (view.cursor + pseudoColumns) cell.label where
  label := ⟨_, (getElem?_headerCells ..).trans (congrArg _ hCell), rfl⟩
  header index shown hShown := by
    obtain ⟨other, -, rfl⟩ := Option.map_eq_some_iff.mp ((getElem?_headerCells ..).symm.trans hShown)
    exact beq_iff_eq
  rows row hRow shown hShown := by
    obtain ⟨cells, -, rfl⟩ := List.mem_map.mp hRow
    exact reversed_of_mem_dataCells hShown

end RemoteTable.Screen
