import RemoteTable.Proofs.Page.Frames
import RemoteTable.Proofs.Table.Completion

/-! Showing all rows. The order of the view is completed by the columns that are not in it, and nothing
else in it changes. -/

namespace RemoteTable

theorem View.showAllRows_of_schema {view : View} {schema : Schema} (hSchema : view.schema = some schema)
    (session : Session) :
    view.showAllRows session = view.requestOrder (completedOrder schema view.order) session := by
  unfold showAllRows
  rw [hSchema]

namespace Page

/-- The view asks for its rows in an order, which is its order from then on. The request stands in place
of the one in flight. -/
structure AsksRowsIn (page next : Page) (view : View) (order : SortOrder) : Prop where
  view_eq : next.view = some { view with
    order := order
    generation := view.generation + 1
    inFlight := some ⟨page.session.nextRequestId, view.tableId⟩ }
  frames_eq : next.session.frames = page.session.frames ++ view.cancellations ++
    [⟨page.session.nextRequestId, view.tableId, "getTableView", (Wire.encode order).sorted⟩]

variable {page : Page} {view : View} {schema : Schema}

theorem showAllRows_of_view (hView : page.view = some view) :
    page.showAllRows = page.withView View.showAllRows := by
  simp [showAllRows, hView]

/-- Nothing is asked for as long as the columns are not known. -/
theorem showAllRows_of_schema_eq_none (hSchema : page.view.bind View.schema = none) :
    page.showAllRows = page.reportError "No data loaded" := by
  cases hView : page.view with
  | none => simp [showAllRows, hView]
  | some view =>
      rw [hView, Option.bind_some] at hSchema
      rw [showAllRows_of_view hView, withView_of_some hView, View.showAllRows, hSchema]
      exact congrArg (fun shown => { page.reportError "No data loaded" with view := shown }) hView.symm

/-- A view that is led asks for its rows in any order. -/
theorem asksRowsIn_withView (hLed : page.Led) (hView : page.view = some view)
    {action : View → Session → View × Session} {order : SortOrder}
    (hAction : action view page.session = view.requestOrder order page.session) :
    page.AsksRowsIn (page.withView action) view order := by
  have hLeads : { view with order := order }.Leads page.session :=
    (hLed.leads view hView).congr rfl fun _ => Iff.rfl
  rw [withView_of_some hView, hAction]
  exact ⟨congrArg some (View.fst_issue _ page.session _), hLeads.frames_issue _⟩

/-- Showing all rows asks for them in the completed order. -/
theorem asksRowsIn_showAllRows (hLed : page.Led) (hView : page.view = some view)
    (hSchema : view.schema = some schema) :
    page.AsksRowsIn page.showAllRows view (View.completedOrder schema view.order) := by
  rw [showAllRows_of_view hView]
  exact asksRowsIn_withView hLed hView (View.showAllRows_of_schema hSchema page.session)

/-- Showing all rows completes the order and leaves what is in it alone. In every run of the operations of
the user, over any transport and with any replies, a view that knows its columns asks once for its rows,
in its order followed by the first column of each name that is not in it, as they stand in the schema and
ascending. This is its order from then on: all columns are in it, and asking once more is asking in the
same order. Without the columns an error is reported, and nothing else happens. -/
theorem showAllRows_completes_order (accepts : Nat → Bool) (operations : List Operation)
    (hOrdinary : ∀ operation ∈ operations, operation.IsOrdinary) :
    let page := (opened accepts).run operations
    (∀ view schema, page.view = some view → view.schema = some schema →
      let order : SortOrder := ⟨view.order.keys ++ view.order.lacking schema⟩
      page.AsksRowsIn page.showAllRows view order ∧
      (∀ column ∈ schema.columns, order.isVisible column.name = true) ∧
      ∃ asked, page.showAllRows.view = some asked ∧
        page.showAllRows.AsksRowsIn page.showAllRows.showAllRows asked order) ∧
    (page.view.bind View.schema = none →
      page.showAllRows = page.reportError "No data loaded") := by
  intro page
  obtain ⟨hSuperseding, hLed⟩ :=
    superseding_run (superseding_opened accepts) (led_opened accepts) hOrdinary
  refine ⟨fun view schema hView hSchema => ?_, showAllRows_of_schema_eq_none⟩
  intro order
  have hOrder : View.completedOrder schema view.order = order :=
    congrArg SortOrder.mk (SortOrder.keys_completedOrder view.order schema)
  have hAsks : page.AsksRowsIn page.showAllRows view order :=
    hOrder ▸ asksRowsIn_showAllRows hLed hView hSchema
  have hAgain : View.completedOrder schema order = order := by
    rw [← hOrder]
    exact SortOrder.completedOrder_completedOrder view.order schema
  refine ⟨hAsks, fun column hColumn => ?_, _, hAsks.view_eq, ?_⟩
  · rw [← hOrder, SortOrder.isVisible_completedOrder]
    exact Or.inr (List.mem_map_of_mem hColumn)
  · have hNext : (page.step .showAllRows).Superseding ∧ (page.step .showAllRows).Led :=
      superseding_step hSuperseding hLed trivial
    have hTwice := asksRowsIn_showAllRows hNext.2 hAsks.view_eq hSchema
    rw [hAgain] at hTwice
    exact hTwice

/-- The table is sorted by its last column, and two other columns have the same name: the first one of
these is added. Before the columns have come, nothing is asked for. -/
theorem showAllRows_completes_order_of_repeated_name :
    let column (name kind : String) : Json := .object [("kind", .string kind), ("name", .string name),
      ("allowMissing", .bool false)]
    let known : Json := .object [("done", .int 1), ("data", .object [("schema", .array
      [column "A" "Integer", column "A" "String", column "B" "Double"]), ("rowCount", .int 4)])]
    let shown : List Operation := [.showTable ⟨"t"⟩]
    let operations : List Operation := shown ++
      [.receive ⟨1, .next known⟩, .handleNext, .showColumn "B" .descending]
    let page := (opened fun _ => true).run operations
    let order : SortOrder := ⟨[⟨⟨.double, "B", false⟩, false⟩, ⟨⟨.integer, "A", false⟩, true⟩]⟩
    (∀ operation ∈ operations, operation.IsOrdinary) ∧
    (∃ view, page.view = some view ∧ page.AsksRowsIn page.showAllRows view order ∧
      view.cancellations = [.cancellation 2 ⟨"t"⟩] ∧
      ∃ asked, page.showAllRows.view = some asked ∧
        page.showAllRows.AsksRowsIn page.showAllRows.showAllRows asked order) ∧
    ((opened fun _ => true).run shown).showAllRows =
      ((opened fun _ => true).run shown).reportError "No data loaded" := by
  intro column known shown operations page order
  have hOrdinary : ∀ operation ∈ operations, operation.IsOrdinary := by
    simp [operations, shown, Operation.IsOrdinary]
  have hEmpty : ∀ operation ∈ shown, operation.IsOrdinary := fun operation hOperation =>
    hOrdinary operation (List.mem_append_left _ hOperation)
  let schema : Schema := ⟨[⟨.integer, "A", false⟩, ⟨.string, "A", false⟩, ⟨.double, "B", false⟩]⟩
  have hKnown : (page.view.map fun view =>
      (view.schema, view.order.keys ++ view.order.lacking schema, view.cancellations)) =
      some (some schema, order.keys, [.cancellation 2 ⟨"t"⟩]) := by decide +kernel
  have hUnknown : ((opened fun _ => true).run shown).view.bind View.schema = none := by
    decide +kernel
  obtain ⟨view, hView, hParts⟩ := Option.map_eq_some_iff.mp hKnown
  obtain ⟨hSchema, hKeys, hCancels⟩ := by simpa only [Prod.mk.injEq] using hParts
  obtain ⟨hAsks, -, hAgain⟩ :=
    (showAllRows_completes_order (fun _ => true) operations hOrdinary).1 view schema hView hSchema
  simp only [hKeys] at hAsks hAgain
  exact ⟨hOrdinary, ⟨view, hView, hAsks, hCancels, hAgain⟩,
    (showAllRows_completes_order (fun _ => true) shown hEmpty).2 hUnknown⟩

end Page

end RemoteTable
