import RemoteTable.Proofs.Table.Placement
import RemoteTable.Table.View

/-! What a view shows is the rendering of its snapshot, in the order this snapshot was asked for in.
Whatever else happens to the view, showing the snapshot once more changes nothing. -/

namespace RemoteTable.View

section Update

variable (view : View) (data : Snapshot)

/-- All that showing a snapshot does to a view. -/
theorem update_eq :
    view.update data =
      let schema := view.schema.or data.schema
      { view with
        schema := schema
        startPosition := data.startPosition
        rowCount := some data.rowCount
        displayedRows :=
          (schema.map fun _ => Rendering.displayedCount (Rendering.rowsOf data)).getD 0
        snapshot := some data
        rendering := (schema.map fun schema =>
          Rendering.ofSnapshot schema view.snapshotOrder data).getD
            (Rendering.withoutSchema view.snapshotOrder)
        cursor :=
          (schema.map fun schema => min view.cursor (schema.length - 1)).getD view.cursor } := by
  cases hSchema : view.schema.or data.schema <;> simp [update, hSchema]

@[simp] theorem serial_update : (view.update data).serial = view.serial := by rw [update_eq]

@[simp] theorem tableId_update : (view.update data).tableId = view.tableId := by rw [update_eq]

@[simp] theorem order_update : (view.update data).order = view.order := by rw [update_eq]

@[simp] theorem snapshotOrder_update : (view.update data).snapshotOrder = view.snapshotOrder := by
  rw [update_eq]

@[simp] theorem generation_update : (view.update data).generation = view.generation := by
  rw [update_eq]

@[simp] theorem inFlight_update : (view.update data).inFlight = view.inFlight := by rw [update_eq]

@[simp] theorem snapshot_update : (view.update data).snapshot = some data := by rw [update_eq]

@[simp] theorem schema_update : (view.update data).schema = view.schema.or data.schema := by
  rw [update_eq]

/-- A snapshot that is drawn again changes nothing. -/
theorem update_update : (view.update data).update data = view.update data := by
  rw [update_eq (view.update data), update_eq view]
  cases view.schema <;> cases data.schema <;> simp

end Update

/-- The view shows its snapshot, and nothing is left to be done about it. -/
def Settled (view : View) : Prop :=
  ∀ data, view.snapshot = some data → view.update data = view

/-- What a snapshot is drawn as is settled. -/
theorem settled_update (view : View) (data : Snapshot) : (view.update data).Settled := by
  intro other hOther
  rw [snapshot_update, Option.some.injEq] at hOther
  subst hOther
  exact view.update_update data

namespace Settled

variable {view : View} {data : Snapshot}

/-- The newest request and the current order have no part in what is shown. -/
theorem asking (h : view.Settled) (order : SortOrder) (generation : Nat)
    (inFlight : Option RequestHandle) :
    { view with order := order, generation := generation, inFlight := inFlight }.Settled := by
  intro data hSnapshot
  have hShown := congrArg (fun shown : View =>
    { shown with order := order, generation := generation, inFlight := inFlight })
    (h data hSnapshot)
  rw [update_eq] at hShown ⊢
  exact hShown

/-- The cursor of a view that shows something stands on a column. -/
theorem cursor_le (h : view.Settled) (hSnapshot : view.snapshot = some data) {schema : Schema}
    (hSchema : view.schema = some schema) : view.cursor ≤ schema.length - 1 := by
  have hCursor := congrArg View.cursor (h data hSnapshot)
  rw [update_eq] at hCursor
  simp only [hSchema, Option.some_or, Option.map_some, Option.getD_some] at hCursor
  omega

theorem withCursor (h : view.Settled) {cursor : Nat}
    (hCursor : ∀ data schema, view.snapshot = some data → view.schema = some schema →
      cursor ≤ schema.length - 1) : { view with cursor := cursor }.Settled := by
  intro data hSnapshot
  have hSchema : view.schema.or data.schema = view.schema := by
    rw [← schema_update, h data hSnapshot]
  have hSame : (view.schema.map fun schema => min cursor (schema.length - 1)).getD cursor =
      cursor := by
    cases hKnown : view.schema with
    | none => rfl
    | some schema => exact Nat.min_eq_left (hCursor data schema hSnapshot hKnown)
  have hShown := congrArg (fun shown : View => { shown with cursor := cursor }) (h data hSnapshot)
  rw [update_eq] at hShown ⊢
  simp only [hSchema, hSame] at hShown ⊢
  exact hShown

theorem selectPrevious (h : view.Settled) : view.selectPrevious.Settled :=
  h.withCursor fun _ _ hSnapshot hSchema =>
    Nat.le_trans (Nat.sub_le _ _) (h.cursor_le hSnapshot hSchema)

theorem selectNext (h : view.Settled) : view.selectNext.Settled := by
  unfold View.selectNext
  split
  · rename_i hBelow
    refine h.withCursor fun data schema hSnapshot hSchema => ?_
    rw [hSchema, Option.map_some, Option.getD_some] at hBelow
    omega
  · exact h

/-- What is drawn is the snapshot, by the columns of the view and in the order it was asked for in. -/
theorem rendering_eq (h : view.Settled) (hSnapshot : view.snapshot = some data) :
    view.rendering = (view.schema.map fun schema =>
      Rendering.ofSnapshot schema view.snapshotOrder data).getD
        (Rendering.withoutSchema view.snapshotOrder) := by
  have hShown := h data hSnapshot
  have hSchema : view.schema.or data.schema = view.schema := by rw [← schema_update, hShown]
  have hRendering := congrArg View.rendering hShown
  rw [update_eq] at hRendering
  simp only [hSchema] at hRendering
  exact hRendering.symm

/-- Every value that is shown stands under its column, in the order its snapshot was asked for
in. -/
theorem places (h : view.Settled) (hSnapshot : view.snapshot = some data) {schema : Schema}
    (hSchema : view.schema = some schema) :
    view.rendering.Places schema view.snapshotOrder data := by
  rw [h.rendering_eq hSnapshot, hSchema]
  exact Rendering.places_ofSnapshot schema view.snapshotOrder data

end Settled

end RemoteTable.View
