import RemoteTable.Proofs.Page.Columns

/-! The header cells of position and count, which stand in front of those of the columns. They are looked
up by name in the order of the displayed rows, as columns are. So they are bare unless the rows are ordered
by a column of the same name, and only a schema that has such a column makes that possible. -/

namespace RemoteTable

/-- The cell shows this name alone: no direction and no priority, and it is not part of an order. -/
def HeaderCell.IsBare (cell : HeaderCell) (name : String) : Prop :=
  cell.name = name ∧ cell.label = name ∧ cell.visible = false

/-- A header cell is bare exactly if no key of the order has its name. -/
theorem Rendering.ShowsOrder.isBare_iff {order : SortOrder} {column : Column} {cell : HeaderCell}
    (h : Rendering.ShowsOrder order column cell) :
    cell.IsBare column.name ↔ ∀ key ∈ order.keys, key.name ≠ column.name := by
  obtain ⟨hName, hVisible, -, hBare⟩ := h
  constructor
  · rintro ⟨-, -, hHidden⟩ key hKey hSame
    rw [hVisible.mpr ⟨key, hKey, hSame⟩] at hHidden
    cases hHidden
  · intro hAbsent
    refine ⟨hName, hBare hAbsent, Bool.eq_false_iff.mpr fun hShown => ?_⟩
    obtain ⟨key, hKey, hSame⟩ := hVisible.mp hShown
    exact hAbsent key hKey hSame

namespace View

/-- The cell is the header of this column over the displayed rows. It is bare exactly if these are not
ordered by the name of the column, so at least as long as the schema has no column of this name. -/
structure HeadedBy (view : View) (column : Column) (cell : HeaderCell) : Prop where
  order : Rendering.ShowsOrder view.snapshotOrder column cell
  bare_iff : cell.IsBare column.name ↔ ∀ key ∈ view.snapshotOrder.keys, key.name ≠ column.name
  bare_of_schema : (∀ schema, view.schema = some schema →
    ∀ known ∈ schema.columns, known.name ≠ column.name) → cell.IsBare column.name

variable {view : View}

theorem Grounded.headedBy (h : view.Grounded) (column : Column) :
    view.HeadedBy column (Rendering.headerCell view.snapshotOrder column) where
  order := Rendering.showsOrder_headerCell view.snapshotOrder column
  bare_iff := (Rendering.showsOrder_headerCell view.snapshotOrder column).isBare_iff
  bare_of_schema hSchema := by
    apply (Rendering.showsOrder_headerCell view.snapshotOrder column).isBare_iff.mpr
    intro key hKey
    obtain ⟨schema, hKnown, hColumn⟩ := h.snapshotOrder.columns key hKey
    exact hSchema schema hKnown key.column hColumn

/-- A view that shows anything has the header of its order. -/
theorem Drawn.header_eq (h : view.Drawn) (hShown : view.rendering.header ≠ []) :
    view.rendering.header = Rendering.headerCells view.snapshotOrder
      ((view.schema.map Schema.columns).getD []) := by
  cases hSnapshot : view.snapshot with
  | none =>
      rw [h.empty hSnapshot] at hShown
      exact absurd rfl hShown
  | some data =>
      rw [h.settled.rendering_eq hSnapshot]
      cases view.schema <;> rfl

end View

namespace Page

/-- Position and count are headed by their names. In every run of the operations of the user, over any
transport and with any replies, the header of a view that shows anything begins with cells of position and
count. Each of them is bare, with no direction and no priority, and not visible, exactly if the displayed
rows have not been ordered by a column of the same name; if they have, it shows the direction and priority
of that column. As long as the schema has no such column, the cell is bare, whatever else the rows are
ordered by. -/
theorem lead_headers_bare_iff (accepts : Nat → Bool) (operations : List Operation)
    (hOrdinary : ∀ operation ∈ operations, operation.IsOrdinary) :
    let page := (opened accepts).run operations
    ∀ view, page.view = some view → view.rendering.header ≠ [] →
      ∃ position count columns, view.rendering.header = position :: count :: columns ∧
        view.HeadedBy ⟨.integer, "(position)", false⟩ position ∧
        view.HeadedBy ⟨.integer, "(count)", false⟩ count := by
  intro page view hView hShown
  have hDrawn : page.Shows View.Drawn := shows_opened_run View.invariant_drawn accepts hOrdinary
  have hGrounded : page.Shows View.Grounded := shows_opened_run View.invariant_grounded accepts hOrdinary
  exact ⟨_, _, _, (hDrawn view hView).header_eq hShown,
    (hGrounded view hView).headedBy Rendering.positionColumn,
    (hGrounded view hView).headedBy Rendering.countColumn⟩

/-- One of the columns of a table is called as the position is, and its rows are ordered by it. -/
theorem lead_headers_bare_iff_of_shared_name :
    let column (name : String) : Json := .object [("kind", .string "Integer"), ("name", .string name),
      ("allowMissing", .bool false)]
    let known : Json := .object [("done", .int 1), ("data", .object [
      ("schema", .array [column "(position)", column "A"]), ("rowCount", .int 4)])]
    let rows : Json := .object [("done", .int 1), ("data", .object [("rowCount", .int 4),
      ("rows", .array [.object [("count", .int 1), ("values", .array [.int 7])]])])]
    let operations : List Operation := [.showTable ⟨"t"⟩, .receive ⟨1, .next known⟩, .handleNext,
      .showColumn "(position)" .ascending, .handleNext, .receive ⟨2, .next rows⟩, .handleNext]
    let page := (opened fun _ => true).run operations
    (∀ operation ∈ operations, operation.IsOrdinary) ∧
    ∃ view, page.view = some view ∧ view.rendering.header ≠ [] ∧
      ∃ position count columns, view.rendering.header = position :: count :: columns ∧
        ¬ position.IsBare "(position)" ∧ count.IsBare "(count)" := by
  intro column known rows operations page
  have hOrdinary : ∀ operation ∈ operations, operation.IsOrdinary := by
    simp [operations, Operation.IsOrdinary]
  have hState : page.view.map (fun view => (view.snapshotOrder.keys.map SortKey.name,
      view.rendering.header.length)) = some (["(position)"], 4) := by decide +kernel
  obtain ⟨view, hView, hParts⟩ := Option.map_eq_some_iff.mp hState
  obtain ⟨hNames, hLength⟩ := Prod.mk.inj hParts
  have hShown : view.rendering.header ≠ [] := fun hNone => by simp [hNone] at hLength
  obtain ⟨position, count, columns, hHeader, hPosition, hCount⟩ :=
    lead_headers_bare_iff (fun _ => true) operations hOrdinary view hView hShown
  have hOnly : ∀ name, name ≠ "(position)" → ∀ key ∈ view.snapshotOrder.keys, key.name ≠ name := by
    intro name hOther key hKey hSame
    have hName : key.name ∈ view.snapshotOrder.keys.map SortKey.name := List.mem_map_of_mem hKey
    rw [hNames, List.mem_singleton] at hName
    exact hOther (hSame.symm.trans hName)
  refine ⟨hOrdinary, view, hView, hShown, position, count, columns, hHeader, fun hBare => ?_,
    hCount.bare_iff.mpr (hOnly "(count)" (by decide))⟩
  obtain ⟨key, hKey, hName⟩ : ∃ key ∈ view.snapshotOrder.keys, key.name = "(position)" := by
    apply List.mem_map.mp
    rw [hNames]
    exact List.mem_singleton_self _
  exact hPosition.bare_iff.mp hBare key hKey hName

/-- The header of the position can be taken for that of a column: here it shows a direction and a priority,
and is visible. -/
theorem position_header_taken_for_column :
    let column (name : String) : Json := .object [("kind", .string "Integer"), ("name", .string name),
      ("allowMissing", .bool false)]
    let known : Json := .object [("done", .int 1), ("data", .object [
      ("schema", .array [column "(position)", column "A"]), ("rowCount", .int 4)])]
    let rows : Json := .object [("done", .int 1), ("data", .object [("rowCount", .int 4),
      ("rows", .array [.object [("count", .int 1), ("values", .array [.int 7])]])])]
    let page := (opened fun _ => true).run [.showTable ⟨"t"⟩, .receive ⟨1, .next known⟩, .handleNext,
      .showColumn "(position)" .ascending, .handleNext, .receive ⟨2, .next rows⟩, .handleNext]
    page.view.bind (fun view => view.rendering.header.head?) =
      some ⟨"(position)", "(position) ⇓0", .integer, true⟩ := by
  decide +kernel

end Page

end RemoteTable
