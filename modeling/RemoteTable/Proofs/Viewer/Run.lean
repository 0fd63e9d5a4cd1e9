import RemoteTable.Proofs.Page.Views
import RemoteTable.Viewer.Basic

/-! Runs of the viewer: commands of the user, replies of the server, and the ticks in which replies
are handled. To its page, each of them is a run of the operations of the user and the server. -/

namespace RemoteTable

namespace Page

/-- A page that operations of the user and the server lead to. -/
def Reaches (page next : Page) : Prop :=
  ∃ operations : List Operation, (∀ operation ∈ operations, operation.IsOrdinary) ∧
    next = page.run operations

end Page

namespace Viewer

/-- What can happen to a viewer. -/
inductive Event where
  | start
  | command (command : Command)
  /-- A reply of the server comes in. -/
  | receive (frame : ReplyFrame)
  | tick

/-- What an event makes of a viewer. -/
def step (viewer : Viewer) : Event → Viewer
  | .start => viewer.start
  | .command command => viewer.update command
  | .receive frame => { viewer with page := viewer.page.receive frame }
  | .tick => viewer.tick.2

/-- The viewer behind events, one after the other. -/
def run (viewer : Viewer) (events : List Event) : Viewer := events.foldl step viewer

/-- A new viewer over a transport that takes the frames at the places where `accepts` holds. -/
def opened (accepts : Nat → Bool) (maxColumnWidth : Nat) : Viewer :=
  new (.opened accepts) maxColumnWidth

@[simp] theorem run_nil (viewer : Viewer) : viewer.run [] = viewer := rfl

@[simp] theorem run_cons (viewer : Viewer) (event : Event) (events : List Event) :
    viewer.run (event :: events) = (viewer.step event).run events := rfl

/-- Settling the mode does nothing to the page. -/
@[simp] theorem page_settle (viewer : Viewer) : viewer.settle.page = viewer.page := by
  unfold settle
  split <;> rfl

variable (viewer : Viewer)

/-- What a command to the table does to the page. -/
def tableOperation? : Command → Option Page.Operation
  | .quit | .help | .exit => none
  | .moveLeft => some .selectPrevious
  | .moveRight => some .selectNext
  | .sortAscending => viewer.selectedColumn?.map fun column => .showColumn column.name .ascending
  | .sortDescending => viewer.selectedColumn?.map fun column => .showColumn column.name .descending
  | .hideColumn => viewer.selectedColumn?.map fun column => .showColumn column.name .hide
  | .histogram => viewer.selectedColumn?.map fun column =>
      if column.kind.hasRange then .requestRange column.name
      else .reportError ("No range for column " ++ column.name)
  | .allRows => some .showAllRows
  | .noRows => some .noRows
  | .refresh => some .refresh
  | .home => some .goHome
  | .cancelRequests => some .cancelAll

/-- What a command to a popup does to the page: it closes the range, if that is shown. -/
def popupOperation? : Command → Option Page.Operation
  | .exit => if viewer.mode = .range then some .closeRange else none
  | _ => none

/-- What a command does to the page. -/
def operation? (command : Command) : Option Page.Operation :=
  if viewer.mode = .table then viewer.tableOperation? command else viewer.popupOperation? command

/-- What an event does to the page. -/
def operationsOf : Event → List Page.Operation
  | .start => [.start]
  | .command command => (viewer.operation? command).toList
  | .receive frame => [.receive frame]
  | .tick => List.replicate viewer.page.pumpBound .handleNext

/-- What the events of a run do to the page. -/
def operations (viewer : Viewer) : List Event → List Page.Operation
  | [] => []
  | event :: rest => viewer.operationsOf event ++ (viewer.step event).operations rest

theorem page_showSelected (directive : SortDirective) :
    viewer.showSelected directive = viewer.page.run (viewer.selectedColumn?.map fun column =>
      Page.Operation.showColumn column.name directive).toList := by
  unfold showSelected
  cases viewer.selectedColumn? <;> rfl

theorem page_requestSelectedRange :
    viewer.requestSelectedRange =
      viewer.page.run (viewer.tableOperation? .histogram).toList := by
  unfold requestSelectedRange tableOperation?
  cases viewer.selectedColumn? with
  | none => rfl
  | some column => cases hRange : column.kind.hasRange <;> simp [hRange] <;> rfl

/-- A command to the table is one operation of the page at most. -/
theorem page_updateTable (command : Command) :
    (viewer.updateTable command).page =
      viewer.page.run (viewer.tableOperation? command).toList := by
  cases command with
  | sortAscending | sortDescending | hideColumn => exact viewer.page_showSelected _
  | histogram => exact viewer.page_requestSelectedRange
  | _ => rfl

/-- A command to a popup is none or closes the range. -/
theorem page_updatePopup (command : Command) :
    (viewer.updatePopup command).page =
      viewer.page.run (viewer.popupOperation? command).toList := by
  cases command with
  | exit => cases hMode : viewer.mode <;> simp [updatePopup, popupOperation?, hMode, Page.step]
  | _ => rfl

/-- In each mode, a command is one operation at most. -/
theorem page_update (command : Command) :
    (viewer.update command).page = viewer.page.run (viewer.operation? command).toList := by
  cases hMode : viewer.mode with
  | table =>
      simp only [update, operation?, hMode, if_true]
      exact viewer.page_updateTable command
  | popup | range =>
      simp only [update, operation?, hMode, reduceCtorEq, if_false]
      exact viewer.page_updatePopup command

/-- An event does to the page what its operations do. -/
theorem page_step (event : Event) :
    (viewer.step event).page = viewer.page.run (viewer.operationsOf event) := by
  cases event with
  | start | receive => rfl
  | command command => exact viewer.page_update command
  | tick =>
      rw [step, tick, page_settle]
      exact viewer.page.pump_eq_run

/-- The page in a run of the viewer is in a run of its own, with the operations of the events. -/
theorem page_run (events : List Event) :
    (viewer.run events).page = viewer.page.run (viewer.operations events) := by
  induction events generalizing viewer with
  | nil => rfl
  | cons event rest ih => rw [run_cons, ih, page_step, operations, Page.run_append]

theorem operations_append (first second : List Event) :
    viewer.operations (first ++ second) =
      viewer.operations first ++ (viewer.run first).operations second := by
  induction first generalizing viewer with
  | nil => rfl
  | cons event rest ih =>
      rw [List.cons_append, operations, ih, operations, List.append_assoc, run_cons]

theorem run_append (first second : List Event) :
    viewer.run (first ++ second) = (viewer.run first).run second :=
  List.foldl_append

/-- Every operation belongs to one of the events. -/
theorem operations_eq_append {events : List Event} {before after : List Page.Operation}
    {operation : Page.Operation} (h : viewer.operations events = before ++ operation :: after) :
    ∃ first event rest own left, events = first ++ event :: rest ∧
      before = viewer.operations first ++ own ∧
      (viewer.run first).operationsOf event = own ++ operation :: left := by
  induction events generalizing viewer before with
  | nil => simp [operations] at h
  | cons event events ih =>
      have hLater (others : List Page.Operation)
          (hOthers : (viewer.step event).operations events = others ++ operation :: after)
          (hBefore : before = viewer.operationsOf event ++ others) :
          ∃ first last rest own left, event :: events = first ++ last :: rest ∧
            before = viewer.operations first ++ own ∧
            (viewer.run first).operationsOf last = own ++ operation :: left := by
        obtain ⟨first, last, rest, own, left, rfl, rfl, hOwn⟩ := ih _ hOthers
        refine ⟨event :: first, last, rest, own, left, rfl, ?_, hOwn⟩
        rw [hBefore, operations, List.append_assoc]
      rw [operations, List.append_eq_append_iff] at h
      rcases h with ⟨others, hBefore, hOthers⟩ | ⟨others, hOwn, hRest⟩
      · exact hLater others hOthers hBefore
      · cases others with
        | nil => exact hLater [] hRest.symm (by rw [hOwn, List.append_nil, List.append_nil])
        | cons other others =>
            obtain ⟨rfl, -⟩ := List.cons.inj hRest
            exact ⟨[], event, events, before, others, rfl, rfl, hOwn⟩

/-- Each operation in a run belongs to one of the events. -/
theorem mem_operations {events : List Event} {operation : Page.Operation}
    (h : operation ∈ viewer.operations events) :
    ∃ first event rest, events = first ++ event :: rest ∧
      operation ∈ (viewer.run first).operationsOf event := by
  obtain ⟨before, after, hSplit⟩ := List.append_of_mem h
  obtain ⟨first, event, rest, own, left, rfl, -, hOwn⟩ := viewer.operations_eq_append hSplit
  refine ⟨first, event, rest, rfl, ?_⟩
  rw [hOwn]
  exact List.mem_append_right _ List.mem_cons_self

/-- A command does something to the page if the table is shown, or if it closes the range. -/
theorem operation?_eq_some {command : Command} {operation : Page.Operation}
    (h : viewer.operation? command = some operation) :
    viewer.mode = .table ∧ viewer.tableOperation? command = some operation ∨
      viewer.mode = .range ∧ operation = .closeRange := by
  unfold operation? at h
  split at h
  · exact Or.inl ⟨‹_›, h⟩
  · unfold popupOperation? at h
    split at h
    · split at h
      · exact Or.inr ⟨‹_›, (Option.some.inj h).symm⟩
      · cases h
    · cases h

theorem ordinary_operation? {command : Command} {operation : Page.Operation}
    (h : viewer.operation? command = some operation) : operation.IsOrdinary := by
  rcases viewer.operation?_eq_some h with ⟨-, hTable⟩ | ⟨-, rfl⟩
  · cases command with
    | sortAscending | sortDescending | hideColumn =>
        obtain ⟨column, -, rfl⟩ := Option.map_eq_some_iff.mp hTable
        trivial
    | histogram =>
        obtain ⟨column, -, rfl⟩ := Option.map_eq_some_iff.mp hTable
        split <;> trivial
    | quit | help | exit => cases hTable
    | _ =>
        obtain rfl := Option.some.inj hTable
        trivial
  · trivial

/-- The viewer leaves views and requests to the page. -/
theorem ordinary_operationsOf (event : Event) :
    ∀ operation ∈ viewer.operationsOf event, operation.IsOrdinary := by
  intro operation hOperation
  cases event with
  | start | receive =>
      obtain rfl := List.mem_singleton.mp hOperation
      trivial
  | command command => exact viewer.ordinary_operation? (Option.mem_toList.mp hOperation)
  | tick =>
      obtain rfl := List.eq_of_mem_replicate hOperation
      trivial

/-- So what holds in ordinary runs of pages holds in every run of the viewer. -/
theorem ordinary_operations (events : List Event) :
    ∀ operation ∈ viewer.operations events, operation.IsOrdinary := by
  intro operation hOperation
  obtain ⟨first, event, rest, -, hOwn⟩ := viewer.mem_operations hOperation
  exact (viewer.run first).ordinary_operationsOf event operation hOwn

/-- A run of the viewer is one of its page. -/
theorem reaches_run (events : List Event) : viewer.page.Reaches (viewer.run events).page :=
  ⟨viewer.operations events, viewer.ordinary_operations events, viewer.page_run events⟩

/-- Invariants of the current view hold throughout a run of the viewer. -/
theorem shows_run {motive : View → Prop} (h : View.Invariant motive) (accepts : Nat → Bool)
    (maxColumnWidth : Nat) (events : List Event) :
    ((opened accepts maxColumnWidth).run events).page.Shows motive := by
  obtain ⟨operations, hOrdinary, hPage⟩ := (opened accepts maxColumnWidth).reaches_run events
  rw [hPage]
  exact Page.shows_opened_run h accepts hOrdinary

end Viewer

end RemoteTable
