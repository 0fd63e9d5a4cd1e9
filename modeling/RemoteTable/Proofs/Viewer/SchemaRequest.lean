import RemoteTable.Proofs.Page.Columns
import RemoteTable.Proofs.Page.Frames
import RemoteTable.Proofs.Page.RangeShown
import RemoteTable.Proofs.Viewer.Run

/-! The request for the schema of a view. As long as the schema is not known, few commands ask the server
for anything, and only one of them takes the place of the request in flight. -/

namespace RemoteTable

namespace Session

/-- The frames that give up requests and were handed over in between are those for these requests. -/
def Cancels (session other : Session) (ids : List Nat) : Prop :=
  ∃ handed, other.frames = session.frames ++ handed ∧
    (handed.filter Request.isCancel).map Request.requestId = ids

namespace Cancels

variable {session other : Session} {ids : List Nat}

theorem of_eq (hAttempts : other.attempts = session.attempts) : session.Cancels other [] :=
  ⟨[], by rw [frames, frames, hAttempts, List.append_nil], rfl⟩

/-- Cancellations of two parts of a run come one after the other. -/
theorem trans {third : Session} {later : List Nat} (left : session.Cancels other ids)
    (right : other.Cancels third later) : session.Cancels third (ids ++ later) := by
  obtain ⟨first, hFirst, rfl⟩ := left
  obtain ⟨second, hSecond, rfl⟩ := right
  exact ⟨first ++ second, by rw [hSecond, hFirst, List.append_assoc],
    by rw [List.filter_append, List.map_append]⟩

/-- A request is no cancellation. -/
theorem invoke (session : Session) {call : Call} (hMethod : call.method ≠ Request.cancelMethod)
    (observer : Observer) : session.Cancels (session.invoke call observer).2 [] := by
  refine ⟨_, frames_invoke session call observer, ?_⟩
  have hRequest : (session.nextAttempt call).frame.isCancel = false :=
    Bool.eq_false_iff.mpr fun hCancel => hMethod (Request.isCancel_iff.mp hCancel)
  simp [hRequest]

end Cancels

end Session

namespace View

/-- The number of the request in flight. -/
def inFlightId? (view : View) : Option Nat := view.inFlight.map RequestHandle.requestId

/-- A request for rows gives up the one in flight. -/
theorem Leads.cancels_issue {session : Session} {view : View} (h : view.Leads session)
    {order : SortOrder} {call : Call} (hCall : view.AsksFor order call) :
    session.Cancels ({ view with order := order }.issue call session).2 view.inFlightId?.toList := by
  have hMethod : call.method ≠ Request.cancelMethod := by
    rcases hCall.isRowMethod with hSame | hSame <;> rw [hSame] <;> decide
  have hRequest : (session.nextAttempt call).frame.isCancel = false :=
    Bool.eq_false_iff.mpr fun hCancel => hMethod (Request.isCancel_iff.mp hCancel)
  have hAsking : { view with order := order }.Leads session := h.congr rfl fun _ => Iff.rfl
  refine ⟨view.cancellations ++ [(session.nextAttempt call).frame], ?_, ?_⟩
  · rw [hAsking.frames_issue, List.append_assoc]
    rfl
  · rw [List.filter_append, List.filter_cons_of_neg (by simp [hRequest]), List.filter_nil,
      List.append_nil, cancellations, inFlightId?]
    cases view.inFlight <;> rfl

end View

namespace Page

variable {page next : Page}

/-- The end of a request gives up another one only if it brings another view. -/
theorem cancels_onCompleted (hNumbered : page.Numbered) {observer : Observer}
    (hStays : (observer.onCompleted page).serial? = page.serial?) :
    page.session.Cancels (observer.onCompleted page).session [] := by
  unfold Observer.onCompleted at hStays ⊢
  split at hStays
  · exact .invoke _ (by simp [Call.bare, Request.cancelMethod]) _
  · exact absurd hStays ((page.replaces_showTable _).serial?_ne hNumbered)
  · exact .of_eq rfl
  · split <;> exact .of_eq rfl
  all_goals exact .of_eq rfl

/-- The handling of a reply gives up a request only with its view. -/
theorem cancels_turn (h : page.session.Balanced) (hNumbered : page.Numbered) (hTurn : Turn page next)
    (hStays : next.serial? = page.serial?) : page.session.Cancels next.session [] := by
  cases hTurn with
  | idle | unknown => exact .of_eq rfl
  | accepted => exact .of_eq (attempts_resume _ _ _ _ _ _)
  | @ended frame pending error hQueue hPending hEnds =>
      rw [finish_eq_onCompleted h hPending] at hStays ⊢
      have hOld : (page.concluded frame.requestId pending.receiver error).Numbered := hNumbered
      have hConcluded : page.session.Cancels
          (page.concluded frame.requestId pending.receiver error).session [] := .of_eq rfl
      exact hConcluded.trans (cancels_onCompleted hOld hStays)

/-- What the user and the server can do to a page as long as the schema of its view is not known,
without giving up all requests. -/
inductive Operation.Early : Operation → Prop where
  | start : Early .start
  | receive (frame : ReplyFrame) : Early (.receive frame)
  | handleNext : Early .handleNext
  | previous : Early .selectPrevious
  | next : Early .selectNext
  | all : Early .showAllRows
  | none : Early .noRows
  | refresh : Early .refresh
  | home : Early .goHome
  | close : Early .closeRange

/-- The request that an operation gives up if the schema is not known: rows in the empty order are
asked for in its place. -/
def givenUpIn (page : Page) : Operation → List Nat
  | .noRows => (page.view.bind View.inFlightId?).toList
  | _ => []

/-- The requests that are given up in a run, in order. -/
def givenUp (page : Page) : List Operation → List Nat
  | [] => []
  | operation :: rest => page.givenUpIn operation ++ (page.step operation).givenUp rest

theorem givenUp_eq_nil (page : Page) {operations : List Operation}
    (hOther : .noRows ∉ operations) : page.givenUp operations = [] := by
  induction operations generalizing page with
  | nil => rfl
  | cons operation rest ih =>
      rw [List.mem_cons, not_or] at hOther
      have hKept : page.givenUpIn operation = [] := by
        cases operation with
        | noRows => exact absurd rfl hOther.1
        | _ => rfl
      rw [givenUp, hKept, ih _ hOther.2]
      rfl

/-- Before the schema is known, each early operation gives up what is predicted. -/
theorem cancels_early (h : page.Led) (hNumbered : page.Numbered) {view : View}
    (hView : page.view = some view) (hSchema : view.schema = none) {operation : Operation}
    (hEarly : operation.Early) (hStays : (page.step operation).serial? = page.serial?) :
    page.session.Cancels (page.step operation).session (page.givenUpIn operation) := by
  cases hEarly with
  | start => exact .invoke _ (by simp [Call.bare, Request.cancelMethod]) _
  | receive | previous | next | close => exact .of_eq rfl
  | handleNext => exact cancels_turn h.balanced hNumbered (turn_of_balanced h.balanced) hStays
  | all =>
      have hReport : (page.step .showAllRows).session.attempts = page.session.attempts := by
        simp [step, showAllRows, withView, hView, View.showAllRows, hSchema, Session.reportError]
      exact .of_eq hReport
  | none =>
      simp only [step, noRows, withView_of_some hView, givenUpIn, hView, Option.bind_some]
      exact (h.leads view hView).cancels_issue (Or.inl rfl)
  | refresh =>
      have hShown : (page.step .refresh).session.attempts = page.session.attempts := by
        simp only [step, refresh, hView, withView_of_some hView, View.refresh]
        cases view.snapshot <;> rfl
      exact .of_eq hShown
  | home =>
      simp only [step, goHome] at hStays ⊢
      split at hStays
      · exact .of_eq rfl
      · exact absurd hStays ((page.replaces_showTable _).serial?_ne hNumbered)

/-- As long as the schema is not known and the view is not replaced, only rows in the empty order take
the place of a request. -/
theorem cancels_run (h : page.Superseding) (hLed : page.Led) (hNumbered : page.Numbered)
    {operations : List Operation} (hOrdinary : ∀ operation ∈ operations, operation.IsOrdinary)
    (hEarly : ∀ first operation second, operations = first ++ operation :: second →
      operation.Early ∧ ∃ view, (page.run first).view = some view ∧ view.schema = none)
    (hSame : (page.run operations).serial? = page.serial?) :
    page.session.Cancels (page.run operations).session (page.givenUp operations) := by
  induction operations generalizing page with
  | nil => exact .of_eq rfl
  | cons operation rest ih =>
      obtain ⟨hFirst, hRest⟩ := List.forall_mem_cons.mp hOrdinary
      obtain ⟨hOwn, view, hView, hSchema⟩ := hEarly [] operation rest rfl
      obtain ⟨hNext, hNextLed⟩ := superseding_step h hLed hFirst
      have hDevelops := develops_step hLed.balanced hFirst
      have hStay : (page.step operation).serial? = page.serial? :=
        hDevelops.serial?_eq (develops_run hNextLed.balanced hRest) hNumbered hSame
      have hStep := cancels_early hLed hNumbered hView hSchema hOwn hStay
      have hLater := ih hNext hNextLed (hDevelops.numbered hNumbered) hRest
        (fun first other second hSplit => hEarly (operation :: first) other second (by rw [hSplit]; rfl))
        (hSame.trans hStay.symm)
      exact hStep.trans hLater

section Opened

variable {accepts : Nat → Bool} {before during : List Operation} {operation : Operation}

/-- A view that has no schema and is not replaced had none before. -/
theorem exists_unknown (hOrdinary : ∀ other ∈ before ++ (during ++ [operation]), other.IsOrdinary)
    {view known : View} (hView : ((opened accepts).run before).view = some view)
    (hKnown : ((opened accepts).run (before ++ during)).view = some known)
    (hSchema : known.schema = none)
    (hSame : ((opened accepts).run (before ++ (during ++ [operation]))).serial? =
      ((opened accepts).run before).serial?) {first second : List Operation} {other : Operation}
    (hSplit : during ++ [operation] = first ++ other :: second) :
    ∃ earlier, ((opened accepts).run (before ++ first)).view = some earlier ∧ earlier.schema = none := by
  have hPrefix : first <+: during := by
    refine (List.prefix_concat_iff.mp ⟨other :: second, hSplit.symm⟩).resolve_left fun hWhole => ?_
    rw [hWhole, List.self_eq_append_right] at hSplit
    cases hSplit
  obtain ⟨rest, rfl⟩ := hPrefix
  have hSerial : ((opened accepts).run before).serial? = some view.serial := by
    rw [serial?, hView, Option.map_some]
  have hLast := serial?_between hOrdinary hSame
  rw [List.append_assoc first] at hOrdinary hSame
  have hMiddle := serial?_between hOrdinary hSame
  rw [hSerial] at hLast hMiddle
  obtain ⟨earlier, hEarlier, hNumber⟩ := Option.map_eq_some_iff.mp hMiddle
  rw [serial?, hKnown, Option.map_some, Option.some.injEq, ← hNumber] at hLast
  have hBefore : ∀ other ∈ (before ++ first) ++ rest, other.IsOrdinary := fun other hOther =>
    hOrdinary other (by simp only [List.mem_append] at hOther ⊢; tauto)
  have hNumbered : ((opened accepts).run (before ++ first)).Numbered :=
    numbered_run accepts fun other hOther => hBefore other (List.mem_append_left _ hOther)
  rw [← List.append_assoc] at hKnown
  have hBecomes : earlier.Becomes known :=
    (develops_opened_run hBefore).becomes hNumbered hEarlier hKnown hLast
  refine ⟨earlier, hEarlier, ?_⟩
  rw [Option.eq_none_iff_forall_ne_some]
  intro schema hSome
  have hLater := hBecomes.schema schema hSome
  rw [hSchema] at hLater
  cases hLater

/-- Up to the operation in which a view may learn its schema, only rows in the empty order take the place
of a request. -/
theorem cancels_opened_run
    (hOrdinary : ∀ other ∈ before ++ (during ++ [operation]), other.IsOrdinary)
    (hEarly : ∀ first other second, during ++ [operation] = first ++ other :: second → ∀ earlier,
      ((opened accepts).run (before ++ first)).view = some earlier → earlier.schema = none → other.Early)
    {view known : View} (hView : ((opened accepts).run before).view = some view)
    (hKnown : ((opened accepts).run (before ++ during)).view = some known)
    (hSchema : known.schema = none)
    (hSame : ((opened accepts).run (before ++ (during ++ [operation]))).serial? =
      ((opened accepts).run before).serial?) :
    ((opened accepts).run before).session.Cancels
      ((opened accepts).run (before ++ (during ++ [operation]))).session
      (((opened accepts).run before).givenUp (during ++ [operation])) := by
  obtain ⟨hBefore, hDuring⟩ := List.forall_mem_append.mp hOrdinary
  obtain ⟨hSuperseding, hLed⟩ := superseding_run (superseding_opened accepts) (led_opened accepts) hBefore
  rw [run_append _ before] at hSame ⊢
  refine cancels_run hSuperseding hLed (numbered_run accepts hBefore) hDuring ?_ hSame
  intro first other second hSplit
  rw [← run_append] at hSame ⊢
  obtain ⟨earlier, hEarlier, hNone⟩ := exists_unknown hOrdinary hView hKnown hSchema hSame hSplit
  exact ⟨hEarly first other second hSplit earlier hEarlier hNone, earlier, hEarlier, hNone⟩

end Opened

/-- Rows are asked for in the empty order as long as the schema is not known. -/
theorem asked_inFlight (accepts : Nat → Bool) {operations : List Operation}
    (hOrdinary : ∀ operation ∈ operations, operation.IsOrdinary) {view : View}
    (hView : ((opened accepts).run operations).view = some view) (hSchema : view.schema = none)
    {handle : RequestHandle} (hInFlight : view.inFlight = some handle) :
    ((opened accepts).run operations).session.Asked handle.requestId view.tableId .empty := by
  have hLed := (superseding_run (superseding_opened accepts) (led_opened accepts) hOrdinary).2
  have hGrounded : view.Grounded :=
    shows_opened_run View.invariant_grounded accepts hOrdinary view hView
  have hOrder := hGrounded.order
  rw [hSchema] at hOrder
  obtain ⟨receiver, hPending, hObserver⟩ := (hLed.leads view hView handle).mp hInFlight
  have hKnown := (hLed.attributed.view view hView).renderers _ (Session.mem_of_pending? hPending) _
    hObserver
  rw [← hOrder.eq_empty]
  exact hKnown.2 rfl

end Page

namespace Viewer

variable {viewer : Viewer} {view : View}

/-- Before the schema is known, a command is an early operation at most, unless it cancels requests. -/
theorem early_operation? (hView : viewer.page.view = some view) (hSchema : view.schema = none)
    {command : Command} (hCommand : command ≠ .cancelRequests) {operation : Page.Operation}
    (h : viewer.operation? command = some operation) : operation.Early := by
  have hSelected : viewer.selectedColumn? = none := by
    simp [selectedColumn?, hView, View.selectedColumn?, hSchema]
  rcases viewer.operation?_eq_some h with ⟨-, hTable⟩ | ⟨-, rfl⟩
  · cases command with
    | sortAscending | sortDescending | hideColumn | histogram =>
        simp [tableOperation?, hSelected] at hTable
    | quit | help | exit => cases hTable
    | cancelRequests => exact absurd rfl hCommand
    | _ =>
        obtain rfl := Option.some.inj hTable
        constructor
  · constructor

theorem early_operationsOf {event : Event} (hEvent : event ≠ .command .cancelRequests)
    {before after : List Page.Operation} {operation : Page.Operation}
    (h : viewer.operationsOf event = before ++ operation :: after)
    (hView : (viewer.page.run before).view = some view) (hSchema : view.schema = none) :
    operation.Early := by
  have hOperation : operation ∈ viewer.operationsOf event := by
    rw [h]
    exact List.mem_append_right _ List.mem_cons_self
  cases event with
  | start | receive =>
      obtain rfl := List.mem_singleton.mp hOperation
      constructor
  | tick =>
      obtain rfl := List.eq_of_mem_replicate hOperation
      constructor
  | command command =>
      have hOnly := Option.mem_toList.mp hOperation
      -- A command does one thing, to the page as it is.
      rw [operationsOf, hOnly, Option.toList_some, List.singleton_eq_append_iff] at h
      rcases h with ⟨rfl, -⟩ | ⟨-, hNone⟩
      · exact early_operation? hView hSchema (fun hSame => hEvent (hSame ▸ rfl)) hOnly
      · cases hNone

/-- As long as the view has no schema, no event does anything else to the page. -/
theorem early_operations {events : List Event} (hEvents : .command .cancelRequests ∉ events)
    {before after : List Page.Operation} {operation : Page.Operation}
    (h : viewer.operations events = before ++ operation :: after)
    (hView : (viewer.page.run before).view = some view) (hSchema : view.schema = none) :
    operation.Early := by
  obtain ⟨first, event, rest, own, left, rfl, rfl, hOwn⟩ := viewer.operations_eq_append h
  have hEvent : event ≠ .command .cancelRequests := by
    rintro rfl
    exact hEvents (List.mem_append_right _ List.mem_cons_self)
  rw [Page.run_append, ← page_run] at hView
  exact early_operationsOf hEvent hOwn hView hSchema

/-- Rows in the empty order are asked for by the user. -/
theorem noRows_operations {events : List Event} (h : .noRows ∈ viewer.operations events) :
    .command .noRows ∈ events := by
  obtain ⟨first, event, rest, rfl, hOwn⟩ := viewer.mem_operations h
  refine List.mem_append_right _ ?_
  cases event with
  | start | receive => cases List.mem_singleton.mp hOwn
  | tick => cases List.eq_of_mem_replicate hOwn
  | command command =>
      rcases operation?_eq_some _ (Option.mem_toList.mp hOwn) with ⟨-, hTable⟩ | ⟨-, hClose⟩
      · cases command with
        | noRows => exact List.mem_cons_self
        | sortAscending | sortDescending | hideColumn =>
            obtain ⟨column, -, hShow⟩ := Option.map_eq_some_iff.mp hTable
            cases hShow
        | histogram =>
            obtain ⟨column, -, hRange⟩ := Option.map_eq_some_iff.mp hTable
            split at hRange <;> cases hRange
        | _ => cases hTable
      · cases hClose

/-- Only for rows in the empty order the request for the schema is given up. In every run of the viewer in
which the user never gives up all requests, over any transport and with any replies, no frame that gives
up a request is handed to the transport as long as the current view has no schema and is not replaced, but
for the request that the view has in flight when the user wants no rows; the rows of the empty order, which
may also tell the schema, are asked for in its place. -/
theorem only_noRows_gives_up_schema_request (accepts : Nat → Bool) (maxColumnWidth : Nat)
    (events : List Event) (hNever : .command .cancelRequests ∉ events)
    (before during after : List Page.Operation) (operation : Page.Operation)
    (hRun : (opened accepts maxColumnWidth).operations events =
      before ++ (during ++ operation :: after)) :
    let page := (Page.opened accepts).run before
    let last := page.run during
    ∀ view known, page.view = some view → last.view = some known → known.schema = none →
      (last.step operation).serial? = page.serial? →
      page.session.Cancels (last.step operation).session (page.givenUp (during ++ [operation])) ∧
      (.command .noRows ∉ events → page.session.Cancels (last.step operation).session []) ∧
      ∀ handle, known.inFlight = some handle →
        last.session.Asked handle.requestId known.tableId .empty := by
  intro page last view known hView hKnown hSchema hSame
  have hWhole : (opened accepts maxColumnWidth).operations events =
      (before ++ (during ++ [operation])) ++ after := by
    rw [hRun, List.append_assoc, List.append_assoc, List.singleton_append]
  have hOrdinary := (opened accepts maxColumnWidth).ordinary_operations events
  rw [hWhole] at hOrdinary
  obtain ⟨hUpTo, -⟩ := List.forall_mem_append.mp hOrdinary
  have hLast : ((Page.opened accepts).run (before ++ during)).view = some known := by
    rw [Page.run_append]
    exact hKnown
  have hNext : (Page.opened accepts).run (before ++ (during ++ [operation])) = last.step operation := by
    rw [Page.run_append, Page.run_concat]
  have hCancels : page.session.Cancels (last.step operation).session
      (page.givenUp (during ++ [operation])) := by
    rw [← hNext] at hSame ⊢
    refine Page.cancels_opened_run hUpTo ?_ hView hLast hSchema hSame
    intro first other second hSplit earlier hEarlier hNone
    have hAt : (opened accepts maxColumnWidth).operations events =
        (before ++ first) ++ other :: (second ++ after) := by
      rw [hWhole, hSplit]
      simp only [List.append_assoc, List.cons_append]
    exact early_operations hNever hAt hEarlier hNone
  refine ⟨hCancels, fun hNoRows => ?_, fun handle hInFlight => ?_⟩
  · have hNone : .noRows ∉ during ++ [operation] := by
      intro hAsked
      have hDone : .noRows ∈ (opened accepts maxColumnWidth).operations events := by
        rw [hWhole]
        exact List.mem_append_left _ (List.mem_append_right _ hAsked)
      exact hNoRows (noRows_operations hDone)
    rw [← page.givenUp_eq_nil hNone]
    exact hCancels
  · rw [← List.append_assoc] at hUpTo
    have hAsked := Page.asked_inFlight accepts (List.forall_mem_append.mp hUpTo).1 hLast hSchema hInFlight
    rw [Page.run_append] at hAsked
    exact hAsked

/-- A table is shown, and nothing has come of it yet. -/
def tableShown : List Event :=
  [.start, .receive ⟨1, .next (.string "files-1")⟩, .receive ⟨1, .completed⟩, .tick,
    .receive ⟨2, .next (.object [("done", .int 1), ("data", .string "t")])⟩,
    .receive ⟨2, .completed⟩, .tick]

/-- All rows are wanted, which needs the schema, and then no rows. -/
theorem only_noRows_gives_up_schema_request_of_refused :
    let viewer := (opened (fun _ => true) 32).run tableShown
    let last := viewer.page.run [.showAllRows]
    (∃ view known, viewer.page.view = some view ∧ last.view = some known ∧ known.schema = none ∧
      ∀ handle, known.inFlight = some handle →
        last.session.Asked handle.requestId known.tableId .empty) ∧
    (last.step .noRows).serial? = viewer.page.serial? ∧
    viewer.page.session.Cancels (last.step .noRows).session [3] := by
  intro viewer last
  have hPage : viewer.page = (Page.opened fun _ => true).run
      ((opened (fun _ => true) 32).operations tableShown) := page_run _ tableShown
  have hNever : Event.command .cancelRequests ∉ tableShown ++ [.command .allRows, .command .noRows] := by
    simp [tableShown]
  have hMode : viewer.mode = .table := by decide +kernel
  have hNextMode : (viewer.step (.command .allRows)).mode = .table := by decide +kernel
  have hDone : viewer.operations [.command .allRows, .command .noRows] = [.showAllRows, .noRows] := by
    simp [operations, operationsOf, operation?, hMode, hNextMode, tableOperation?]
  have hRun : (opened (fun _ => true) 32).operations
      (tableShown ++ [.command .allRows, .command .noRows]) =
        (opened (fun _ => true) 32).operations tableShown ++ ([.showAllRows] ++ .noRows :: []) := by
    rw [operations_append]
    exact congrArg (_ ++ ·) hDone
  have hSame : (last.step .noRows).serial? = viewer.page.serial? := by decide +kernel
  have hGivenUp : viewer.page.givenUp ([.showAllRows] ++ [.noRows]) = [3] := by decide +kernel
  have hShown : viewer.page.view.isSome := by decide +kernel
  have hUnknown : last.view.map View.schema = some none := by decide +kernel
  obtain ⟨view, hView⟩ := Option.isSome_iff_exists.mp hShown
  obtain ⟨known, hKnown, hSchema⟩ := Option.map_eq_some_iff.mp hUnknown
  have hKept := only_noRows_gives_up_schema_request (fun _ => true) 32 _ hNever _ _ _ _ hRun
  rw [← hPage] at hKept
  obtain ⟨hCancels, -, hAsked⟩ := hKept view known hView hKnown hSchema hSame
  rw [hGivenUp] at hCancels
  exact ⟨⟨view, known, hView, hKnown, hSchema, hAsked⟩, hSame, hCancels⟩

/-- The request for the schema is given up at a command of the user although the view stays. -/
theorem not_forall_schema_request_kept :
    ¬ ∀ (events : List Event) (command : Command), .command .cancelRequests ∉ events →
      command ≠ .cancelRequests →
      let viewer := (opened (fun _ => true) 32).run events
      let next := viewer.update command
      ∀ view id, viewer.page.view = some view → view.schema = none →
        next.page.serial? = viewer.page.serial? →
        ⟨id, view.tableId, "getSchema", .null⟩ ∈ viewer.page.session.frames →
        ∀ frame ∈ next.page.session.frames, frame.requestId = id → frame.isCancel = false := by
  intro hKept
  have hStart := hKept tableShown .noRows (by simp [tableShown]) (by decide)
  extract_lets viewer next at hStart
  have hShown : viewer.page.view.map (fun view => (view.tableId, view.schema)) = some (⟨"t"⟩, none) := by
    decide +kernel
  have hSame : next.page.serial? = viewer.page.serial? := by decide +kernel
  have hAsked : ⟨3, ⟨"t"⟩, "getSchema", .null⟩ ∈ viewer.page.session.frames := by decide +kernel
  have hGivenUp : ∃ frame ∈ next.page.session.frames, frame.requestId = 3 ∧ frame.isCancel = true := by
    decide +kernel
  obtain ⟨view, hView, hFields⟩ := Option.map_eq_some_iff.mp hShown
  obtain ⟨hTable, hSchema⟩ := Prod.mk.inj hFields
  obtain ⟨frame, hFrame, hId, hCancel⟩ := hGivenUp
  rw [← hTable] at hAsked
  have hNoCancel := hStart view 3 hView hSchema hSame hAsked frame hFrame hId
  rw [hCancel] at hNoCancel
  cases hNoCancel

end Viewer

end RemoteTable
