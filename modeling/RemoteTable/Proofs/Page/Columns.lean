import RemoteTable.Proofs.Page.Asking
import RemoteTable.Proofs.Page.Schema
import RemoteTable.Proofs.Table.Columns

/-! Everything a view refers to is in its schema, and the schema is fixed. This goes for the orders of the
view and its cursor, and for the rows that are asked for. -/

namespace RemoteTable

/-- Orders and the cursor of a view rest on its schema, whatever happens to it. -/
theorem View.invariant_grounded : View.Invariant View.Grounded where
  new tableId serial := .new tableId serial
  issue _ _ call session _ hForms h := h.issue hForms call session
  adjusts _ _ hAdjusts h := h.adjusts hAdjusts
  acceptSnapshot _ generation data h := h.acceptSnapshot generation data
  requestFinished _ generation h := h.requestFinished generation

namespace Page

variable {page next : Page}

/-- The view asks for rows in an order that it makes of its own. -/
def AsksInOrder (page : Page) (frame : Request) : Prop :=
  ∃ view order, page.view = some view ∧ view.Forms order ∧ frame.objectId = view.tableId ∧
    frame.arguments = (Wire.encode order).sorted

/-- The frame has been handed over before, or it is the last one that the later page has handed over. -/
def HandsLast (page next : Page) (frame : Request) : Prop :=
  ∃ given, next.session.frames = page.session.frames ++ given ++ [frame]

/-- Rows are asked for in an order that the view forms. -/
theorem MayAsk.asksInOrder {operation : Operation} {call : Call} {observer : Observer}
    (h : page.MayAsk operation call observer) (hMethod : call.method = "getTableView") (id : Nat) :
    operation.AsksRows ∧ page.AsksInOrder ⟨id, call.objectId, call.method, call.arguments⟩ := by
  cases h with
  | rows hRows hView hForms => exact ⟨hRows, _, _, hView, hForms, rfl, rfl⟩
  | files | table | schema | home => simp [Call.bare] at hMethod
  | range => simp [Call.of] at hMethod

/-- Only the user asks for rows in an order. -/
theorem frames_turn (h : page.session.Balanced) (hTurn : Turn page next) {frame : Request}
    (hFrame : frame ∈ next.session.frames) (hMethod : frame.method = "getTableView") :
    frame ∈ page.session.frames := by
  have hCancel : frame.isCancel = false := by
    rw [Request.isCancel, hMethod]
    rfl
  cases hTurn with
  | idle | unknown => exact hFrame
  | accepted =>
      rw [Session.frames, attempts_resume] at hFrame
      exact hFrame
  | @ended reply pending error hQueue hPending hEnds =>
      rw [finish_eq_onCompleted h hPending] at hFrame
      rcases (asks_onCompleted pending.receiver.observer _).frames_eq hFrame hCancel with
        hOld | ⟨-, call, observer, id, ⟨operation, hMay, hLoads⟩, rfl, -⟩
      · exact hOld
      · cases (hMay.asksInOrder hMethod id).1 <;> exact hLoads.elim

/-- Of the frames that ask for rows, an operation hands over one at most, and that one last. -/
theorem frames_step (h : page.session.Balanced) {operation : Operation}
    (hOrdinary : operation.IsOrdinary) {frame : Request}
    (hFrame : frame ∈ (page.step operation).session.frames) (hMethod : frame.method = "getTableView") :
    frame ∈ page.session.frames ∨
      page.AsksInOrder frame ∧ page.HandsLast (page.step operation) frame := by
  have hCancel : frame.isCancel = false := by
    rw [Request.isCancel, hMethod]
    rfl
  rcases operation.handles_or with rfl | ⟨reply, rfl⟩ | ⟨hOther, hHandling⟩
  · exact Or.inl (frames_turn h (turn_of_balanced h) hFrame hMethod)
  · exact Or.inl hFrame
  · have hAsks : page.session.Asks (page.MayAsk operation) (page.step operation).session :=
      asks_step hOrdinary hOther hHandling
    refine (hAsks.frames_eq hFrame hCancel).imp_right ?_
    rintro ⟨given, call, observer, id, hMay, rfl, hLast⟩
    exact ⟨(hMay.asksInOrder hMethod id).2, given, hLast⟩

/-- Rows are asked for in an order by one of the operations of a run. -/
theorem exists_asksInOrder (accepts : Nat → Bool) {operations : List Operation}
    (hOrdinary : ∀ operation ∈ operations, operation.IsOrdinary) {frame : Request}
    (hFrame : frame ∈ ((opened accepts).run operations).session.frames)
    (hMethod : frame.method = "getTableView") :
    ∃ before operation after, operations = before ++ operation :: after ∧
      ((opened accepts).run before).AsksInOrder frame ∧
      ((opened accepts).run before).HandsLast ((opened accepts).run (before ++ [operation])) frame := by
  induction operations using List.reverseRecOn with
  | nil => exact absurd hFrame List.not_mem_nil
  | append_singleton operations operation ih =>
      have hBefore := fun other hOther => hOrdinary other (List.mem_append_left _ hOther)
      have hStart : (opened accepts).session.Balanced := .fresh accepts
      have hNow := hOrdinary operation (List.mem_append_right _ (List.mem_singleton_self _))
      rw [run_concat] at hFrame
      rcases frames_step (balanced_run hStart operations) hNow hFrame hMethod with
        hOld | ⟨hAsks, hHands⟩
      · obtain ⟨before, earlier, after, rfl, hAsked⟩ := ih hBefore hOld
        exact ⟨before, earlier, after ++ [operation], by simp, hAsked⟩
      · rw [← run_concat] at hHands
        exact ⟨operations, operation, [], rfl, hAsks, hHands⟩

/-- Everything a view refers to is in its schema, and the schema is fixed. In every run of the operations
of the user, over any transport and with any replies, the schema of the current view is the first one
among the snapshots that this view has taken, whatever columns it lists, and it is the schema of the view
from then on. All keys of the two orders of the view are columns of its schema, no name comes twice in an
order, and the cursor is at the beginning or on a column. The same goes for the order in which rows have
been asked for, with respect to the view that has asked for them. -/
theorem view_stays_within_schema (accepts : Nat → Bool) (operations : List Operation)
    (hOrdinary : ∀ operation ∈ operations, operation.IsOrdinary) :
    let page := (opened accepts).run operations
    (∀ view, page.view = some view →
      view.schema = ((opened accepts).taken view.serial operations).findSome? Snapshot.schema ∧
      (∀ first second earlier schema, operations = first ++ second →
        ((opened accepts).run first).view = some earlier → earlier.serial = view.serial →
        earlier.schema = some schema → view.schema = some schema) ∧
      view.Grounded ∧
      (view.schema = none → view.order = .empty ∧ view.snapshotOrder = .empty)) ∧
    ∀ frame ∈ page.session.frames, frame.method = "getTableView" →
      ∃ (before : List Operation) (operation : Operation) (after : List Operation) (view : View)
        (order : SortOrder), operations = before ++ operation :: after ∧
        ((opened accepts).run before).HandsLast ((opened accepts).run (before ++ [operation])) frame ∧
        ((opened accepts).run before).view = some view ∧ frame.objectId = view.tableId ∧
        frame.arguments = (Wire.encode order).sorted ∧ order.Within view.schema := by
  intro page
  have hShows : ∀ {first : List Operation}, (∀ operation ∈ first, operation.IsOrdinary) →
      ((opened accepts).run first).Shows View.Grounded := fun hFirst =>
    shows_opened_run View.invariant_grounded accepts hFirst
  refine ⟨fun view hView => ⟨schema_run accepts hOrdinary view hView, ?_, hShows hOrdinary view hView, ?_⟩,
    fun frame hFrame hMethod => ?_⟩
  · rintro first second earlier schema rfl hEarlier hSerial hSchema
    have hNumbered : ((opened accepts).run first).Numbered :=
      numbered_run accepts fun operation hOperation =>
        hOrdinary operation (List.mem_append_left _ hOperation)
    have hBecomes : earlier.Becomes view :=
      (develops_opened_run hOrdinary).becomes hNumbered hEarlier hView hSerial.symm
    exact hBecomes.schema schema hSchema
  · intro hNone
    obtain ⟨hOrder, hSnapshotOrder, -⟩ := hShows hOrdinary view hView
    rw [hNone] at hOrder hSnapshotOrder
    exact ⟨hOrder.eq_empty, hSnapshotOrder.eq_empty⟩
  · obtain ⟨before, operation, after, rfl, ⟨view, order, hView, hForms, hTable, hArguments⟩, hHands⟩ :=
      exists_asksInOrder accepts hOrdinary hFrame hMethod
    have hBefore : ∀ other ∈ before, other.IsOrdinary := fun other hOther =>
      hOrdinary other (List.mem_append_left _ hOther)
    exact ⟨before, operation, after, view, order, rfl, hHands, hView, hTable, hArguments,
      hForms.within (hShows hBefore view hView).order⟩

/-- Two columns of the same name are told, and all columns are shown. -/
theorem view_stays_within_schema_of_repeated_name :
    let column (kind : String) : Json := .object [("kind", .string kind), ("name", .string "A"),
      ("allowMissing", .bool false)]
    let known : Json := .object [("done", .int 1), ("data", .object [("schema",
      .array [column "Integer", column "String"]), ("rowCount", .int 4)])]
    let operations : List Operation := [.showTable ⟨"t"⟩, .receive ⟨1, .next known⟩, .handleNext,
      .selectNext, .showAllRows]
    let page := (opened fun _ => true).run operations
    (∀ operation ∈ operations, operation.IsOrdinary) ∧ (∃ view, page.view = some view ∧
      view.schema = ((opened fun _ => true).taken view.serial operations).findSome? Snapshot.schema ∧
      view.Grounded) ∧
    ∃ frame ∈ page.session.frames, frame.method = "getTableView" ∧
      ∃ (view : View) (order : SortOrder), frame.objectId = view.tableId ∧
        frame.arguments = (Wire.encode order).sorted ∧ order.Within view.schema := by
  intro column known operations page
  have hOrdinary : ∀ operation ∈ operations, operation.IsOrdinary := by
    simp [operations, Operation.IsOrdinary]
  have hSent : ∃ frame ∈ page.session.frames, frame.method = "getTableView" := by decide +kernel
  have hShown : page.view.isSome := by decide +kernel
  obtain ⟨frame, hFrame, hMethod⟩ := hSent
  obtain ⟨view, hView⟩ := Option.isSome_iff_exists.mp hShown
  obtain ⟨hViews, hFrames⟩ := view_stays_within_schema (fun _ => true) operations hOrdinary
  obtain ⟨hSchema, -, hGrounded, -⟩ := hViews view hView
  obtain ⟨_, _, _, asker, order, -, -, -, hTable, hArguments, hWithin⟩ := hFrames frame hFrame hMethod
  exact ⟨hOrdinary, ⟨view, hView, hSchema, hGrounded⟩,
    ⟨frame, hFrame, hMethod, asker, order, hTable, hArguments, hWithin⟩⟩

end Page

end RemoteTable
