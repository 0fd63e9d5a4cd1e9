import RemoteTable.Proofs.Page.Moves
import RemoteTable.Proofs.Session.Frames

/-! What each operation of the user asks the server for. An operation issues at most one request, as the
last thing it does, and which one it is depends on the operation and on the current view alone. -/

namespace RemoteTable

/-- Requests are given up and errors reported, and then at most one request is issued, of a certain
kind. -/
inductive Session.Asks (kind : Call → Observer → Prop) (start : Session) : Session → Prop where
  | quiet {session : Session} (h : start.Quiet session) : Asks kind start session
  | issue {session : Session} (h : start.Quiet session) {call : Call} {observer : Observer}
      (hKind : kind call observer) : Asks kind start (session.invoke call observer).2

namespace Session

variable {kind : Call → Observer → Prop} {session other : Session}

theorem Asks.refl (session : Session) : session.Asks kind session := .quiet .refl

/-- Giving up and reporting in front of a request do not count. -/
theorem Quiet.asks {middle : Session} (left : session.Quiet middle) (right : middle.Asks kind other) :
    session.Asks kind other := by
  cases right with
  | quiet h => exact .quiet (left.trans h)
  | issue h hKind => exact .issue (left.trans h) hKind

/-- What is handed over without a request gives up other requests. -/
theorem Quiet.frames_eq (h : session.Quiet other) :
    ∃ given, other.frames = session.frames ++ given ∧ ∀ frame ∈ given, frame.isCancel = true := by
  induction h with
  | refl => exact ⟨[], (List.append_nil _).symm, fun _ hFrame => absurd hFrame List.not_mem_nil⟩
  | @cancel middle _ id ih =>
      obtain ⟨given, hFrames, hCancel⟩ := ih
      cases hPending : middle.pending? id with
      | none =>
          rw [snd_cancel_of_none hPending]
          exact ⟨given, hFrames, hCancel⟩
      | some pending =>
          refine ⟨given ++ [.cancellation id pending.objectId], ?_, fun frame hFrame => ?_⟩
          · rw [frames_cancel hPending, hFrames, List.append_assoc]
          · rcases List.mem_append.mp hFrame with hOld | hNew
            · exact hCancel frame hOld
            · obtain rfl := List.mem_singleton.mp hNew
              rfl
  | report _ message ih => exact ih

/-- A frame that is handed over gives up a request, or it is the last one and asks for something of the
kind. -/
theorem Asks.frames_eq (h : session.Asks kind other) {frame : Request}
    (hFrame : frame ∈ other.frames) (hCancel : frame.isCancel = false) :
    frame ∈ session.frames ∨ ∃ given call observer id, kind call observer ∧
      frame = ⟨id, call.objectId, call.method, call.arguments⟩ ∧
      other.frames = session.frames ++ given ++ [frame] := by
  have hQuiet : ∀ {middle : Session}, session.Quiet middle → frame ∈ middle.frames →
      frame ∈ session.frames := by
    intro middle hMiddle hOld
    obtain ⟨given, hFrames, hGiven⟩ := hMiddle.frames_eq
    rw [hFrames] at hOld
    rcases List.mem_append.mp hOld with hBefore | hNew
    · exact hBefore
    · rw [hGiven frame hNew] at hCancel
      cases hCancel
  cases h with
  | quiet h => exact Or.inl (hQuiet h hFrame)
  | @issue middle h call observer hKind =>
      rw [frames_invoke] at hFrame ⊢
      rcases List.mem_append.mp hFrame with hOld | hNew
      · exact Or.inl (hQuiet h hOld)
      · obtain rfl := List.mem_singleton.mp hNew
        obtain ⟨given, hFrames, -⟩ := h.frames_eq
        exact Or.inr ⟨given, call, observer, _, hKind, rfl, by rw [hFrames]⟩

end Session

theorem View.asks_issue {kind : Call → Observer → Prop} (view : View) (session : Session) {call : Call}
    (hKind : kind call (.renderer view.serial (view.generation + 1))) :
    session.Asks kind (view.issue call session).2 := by
  rw [issue_eq]
  exact .issue (view.quiet_cancelInFlight session) hKind

namespace Page

/-- The operation asks for the rows of the current view. -/
inductive Operation.AsksRows : Operation → Prop where
  | none : AsksRows .noRows
  | all : AsksRows .showAllRows
  | column (name : String) (directive : SortDirective) : AsksRows (.showColumn name directive)

/-- The request that an operation may issue. Rows are asked for in an order that the view makes of its
current one. -/
inductive MayAsk (page : Page) : Operation → Call → Observer → Prop where
  | files : MayAsk page .start (.bare rootId "prepareFiles") (.fileSet none)
  | table (files : ObjectId) :
      MayAsk page (.loadTable files) (.bare files "loadTable") (.tableLoader none)
  | schema (tableId : ObjectId) : MayAsk page (.showTable tableId) (.bare tableId "getSchema")
      (.renderer page.nextSerial 1)
  | home {tableId : ObjectId} (hHome : page.homeId = some tableId) :
      MayAsk page .goHome (.bare tableId "getSchema") (.renderer page.nextSerial 1)
  | rows {operation : Operation} (hRows : operation.AsksRows) {view : View}
      (hView : page.view = some view) {order : SortOrder} (hForms : view.Forms order) :
      MayAsk page operation (.of view.tableId "getTableView" order)
        (.renderer view.serial (view.generation + 1))
  | range {name : String} {view : View} (hView : page.view = some view) {column : Column}
      (hColumn : view.findColumn? name = some column) :
      MayAsk page (.requestRange name) (.of view.tableId "range" name)
        (.rangeCollector view.serial column none)

variable {kind : Call → Observer → Prop} {page : Page} {operation : Operation}

/-- The current view acts on the session, if there is one. -/
theorem asks_withView {action : View → Session → View × Session}
    (hAction : ∀ view, page.view = some view → page.session.Asks kind (action view page.session).2) :
    page.session.Asks kind (page.withView action).session := by
  unfold withView
  split
  · exact .refl _
  · exact hAction _ ‹_›

/-- A new view has nothing in flight when it asks for its schema. -/
theorem asks_showTable (page : Page) {tableId : ObjectId}
    (hKind : kind (.bare tableId "getSchema") (.renderer page.nextSerial 1)) :
    page.session.Asks kind (page.showTable tableId).session :=
  (page.quiet_newView tableId).session.asks (.issue .refl hKind)

section View

variable {view : View} (hView : page.view = some view)

include hView

/-- Rows in an order that the view forms are a request of the operation that asks for them. -/
theorem asks_requestOrder (hRows : operation.AsksRows) {order : SortOrder}
    (hForms : view.Forms order) :
    page.session.Asks (page.MayAsk operation) (view.requestOrder order page.session).2 :=
  View.asks_issue { view with order := order } page.session (.rows hRows hView hForms)

theorem asks_showAllRows :
    page.session.Asks (page.MayAsk .showAllRows) (view.showAllRows page.session).2 := by
  unfold View.showAllRows
  split
  · exact .quiet (.report .refl _)
  · exact asks_requestOrder hView .all (.complete ‹_›)

theorem asks_showColumn (name : String) (directive : SortDirective) :
    page.session.Asks (page.MayAsk (.showColumn name directive))
      (view.showColumn name directive page.session).2 := by
  unfold View.showColumn
  split
  · exact asks_requestOrder hView (.column name _) (.hide name)
  all_goals
    split
    · exact .refl _
    · exact asks_requestOrder hView (.column name _) (.promote ‹_› _)

theorem asks_requestRange (name : String) :
    page.session.Asks (page.MayAsk (.requestRange name)) (view.requestRange name page.session) := by
  unfold View.requestRange
  split
  · exact .refl _
  · exact .issue .refl (.range hView ‹_›)

end View

/-- What the user does issues one request at most, and only one that the operation may issue. -/
theorem asks_step (hOrdinary : operation.IsOrdinary) (hArrival : ∀ frame, operation ≠ .receive frame)
    (hHandling : operation ≠ .handleNext) :
    page.session.Asks (page.MayAsk operation) (page.step operation).session := by
  cases operation with
  | start => exact .issue .refl .files
  | loadTable files => exact .issue .refl (.table files)
  | newView tableId => exact .quiet (page.quiet_newView tableId).session
  | showTable tableId => exact page.asks_showTable (.schema tableId)
  | goHome =>
      simp only [step, goHome]
      split
      · exact .refl _
      · exact page.asks_showTable (.home ‹_›)
  | noRows => exact asks_withView fun view hView => asks_requestOrder hView .none .empty
  | showAllRows =>
      simp only [step, showAllRows]
      split
      · exact .quiet (.report .refl _)
      · exact asks_withView fun view hView => asks_showAllRows hView
  | showColumn name directive =>
      exact asks_withView fun view hView => asks_showColumn hView name directive
  | requestRange name =>
      simp only [step, requestRange]
      exact asks_withView fun view hView => asks_requestRange hView name
  | refresh => exact .quiet page.quiet_refresh.session
  | selectPrevious | selectNext | showRange | closeRange => exact .refl _
  | cancel requestId => exact .quiet (.cancel .refl requestId)
  | cancelAll => exact .quiet (Session.quiet_cancelEach _ _)
  | reportError message => exact .quiet (.report .refl message)
  | receive frame => exact absurd rfl (hArrival frame)
  | handleNext => exact absurd rfl hHandling
  | invoke | setView | changeView => exact hOrdinary.elim

/-- At the end of a request its observer may load a table or show one, and nothing else is asked
for. -/
theorem asks_onCompleted (observer : Observer) (page : Page) :
    page.session.Asks (fun call next => ∃ operation, page.MayAsk operation call next ∧ operation.Loads)
      (observer.onCompleted page).session := by
  unfold Observer.onCompleted
  split
  · exact .issue .refl ⟨_, .table _, trivial⟩
  · exact page.asks_showTable ⟨_, .schema _, trivial⟩
  · exact .refl _
  · split <;> exact .refl _
  all_goals exact .refl _

end Page

end RemoteTable
