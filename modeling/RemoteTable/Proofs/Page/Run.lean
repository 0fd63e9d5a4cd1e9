import RemoteTable.Page.Dispatch
import RemoteTable.Proofs.Table.Conduct

/-! Runs of a page: what the user, the server and the transport can make of it. Replies are handled
one at a time, so that further ones may arrive while the queue is worked off. Handling the whole
queue is a run of such steps. -/

namespace RemoteTable.Page

/-- The page uses its session and tells observers nothing. -/
structure Uses (page next : Page) : Prop where
  session : page.session.Uses next.session
  journal : next.journal = page.journal

/-- Nothing is asked of the server. -/
structure Quiet (page next : Page) : Prop where
  session : page.session.Quiet next.session
  journal : next.journal = page.journal

/-- What uses the session behind a quiet change uses it behind the page from before. -/
theorem Quiet.uses {page middle next : Page} (left : page.Quiet middle) (right : middle.Uses next) :
    page.Uses next :=
  ⟨left.session.uses right.session, right.journal.trans left.journal⟩

theorem Quiet.toUses {page next : Page} (h : page.Quiet next) : page.Uses next :=
  ⟨.quiet h.session, h.journal⟩

variable (page : Page)

theorem quiet_reportError (message : String) : page.Quiet (page.reportError message) :=
  ⟨.report .refl message, rfl⟩

/-- An action of the view makes no new one. -/
theorem nextSerial_withView (action : View → Session → View × Session) :
    (page.withView action).nextSerial = page.nextSerial := by
  unfold withView
  split <;> rfl

theorem homeId_withView (action : View → Session → View × Session) :
    (page.withView action).homeId = page.homeId := by
  unfold withView
  split <;> rfl

/-- An action of the view asks for as much as it asks of any session. -/
theorem quiet_withView {action : View → Session → View × Session}
    (h : ∀ view (session : Session), session.Quiet (action view session).2) :
    page.Quiet (page.withView action) := by
  unfold withView
  split
  · exact ⟨.refl, rfl⟩
  · exact ⟨h _ _, rfl⟩

theorem uses_withView {action : View → Session → View × Session}
    (h : ∀ view (session : Session), session.Uses (action view session).2) :
    page.Uses (page.withView action) := by
  unfold withView
  split
  · exact ⟨.quiet .refl, rfl⟩
  · exact ⟨h _ _, rfl⟩

/-- A view that is replaced gives up its request; the new one has asked for nothing yet. -/
theorem quiet_setView (view : View) : page.Quiet (page.setView view) := by
  have h := page.quiet_withView View.quiet_cancelInFlight
  exact ⟨h.session, h.journal⟩

/-- The request in flight is given up before the new view stands. -/
theorem quiet_newView (tableId : ObjectId) : page.Quiet (page.newView tableId) := by
  have h := quiet_setView { page with
    homeId := page.homeId.or (some tableId), nextSerial := page.nextSerial + 1 }
    (.new tableId page.nextSerial)
  exact ⟨h.session, h.journal⟩

theorem nextSerial_newView (tableId : ObjectId) :
    (page.newView tableId).nextSerial = page.nextSerial + 1 :=
  nextSerial_withView _ _

theorem homeId_newView (tableId : ObjectId) :
    (page.newView tableId).homeId = page.homeId.or (some tableId) :=
  homeId_withView _ _

/-- Showing a table asks for its schema. -/
theorem uses_showTable (tableId : ObjectId) : page.Uses (page.showTable tableId) :=
  (page.quiet_newView tableId).uses
    (uses_withView _ fun view session => view.uses_issue session _)

theorem uses_goHome : page.Uses page.goHome := by
  unfold goHome
  split
  · exact ⟨.quiet .refl, rfl⟩
  · exact page.uses_showTable _

theorem uses_showAllRows : page.Uses page.showAllRows := by
  unfold showAllRows
  split
  · exact (page.quiet_reportError _).toUses
  · exact page.uses_withView View.uses_showAllRows

theorem uses_requestRange (name : String) : page.Uses (page.requestRange name) := by
  unfold requestRange
  exact page.uses_withView fun view session => view.uses_requestRange session name

theorem quiet_refresh : page.Quiet page.refresh := by
  unfold refresh
  split
  · exact page.quiet_reportError _
  · exact page.quiet_withView View.quiet_refresh

/-- Whoever uses a page issues a request by this alone. -/
theorem uses_invoke (call : Call) (observer : Observer) :
    page.Uses (page.invoke call observer).2 :=
  ⟨.issue .refl call observer, rfl⟩

/-- What can happen to a page. -/
inductive Operation where
  | start
  | loadTable (files : ObjectId)
  | newView (tableId : ObjectId)
  | showTable (tableId : ObjectId)
  | goHome
  | noRows
  | showAllRows
  | showColumn (name : String) (directive : SortDirective)
  | requestRange (name : String)
  | refresh
  | selectPrevious
  | selectNext
  | showRange (range : Range)
  | closeRange
  | cancel (requestId : Nat)
  | cancelAll
  | reportError (message : String)
  /-- A reply of the server comes in. -/
  | receive (frame : ReplyFrame)
  /-- The first waiting reply is handled, as in each turn of `pump`. -/
  | handleNext
  /-- A request for any observer. -/
  | invoke (call : Call) (observer : Observer)
  /-- Any view takes the place of the current one. -/
  | setView (view : View)
  /-- Any change of the current view without the session. -/
  | changeView (change : View → View)

/-- What the user and the server can do to a page. Views and requests are made by the page alone. -/
def Operation.IsOrdinary : Operation → Prop
  | .invoke _ _ | .setView _ | .changeView _ => False
  | _ => True

/-- What an operation makes of a page. -/
def step (page : Page) : Operation → Page
  | .start => page.start
  | .loadTable files => page.loadTable files
  | .newView tableId => page.newView tableId
  | .showTable tableId => page.showTable tableId
  | .goHome => page.goHome
  | .noRows => page.noRows
  | .showAllRows => page.showAllRows
  | .showColumn name directive => page.showColumn name directive
  | .requestRange name => page.requestRange name
  | .refresh => page.refresh
  | .selectPrevious => page.modifyView View.selectPrevious
  | .selectNext => page.modifyView View.selectNext
  | .showRange range => page.showRange range
  | .closeRange => page.closeRange
  | .cancel requestId => (page.cancel requestId).2
  | .cancelAll => page.cancelAll.2
  | .reportError message => page.reportError message
  | .receive frame => page.receive frame
  | .handleNext => page.pumpOne.getD page
  | .invoke call observer => (page.invoke call observer).2
  | .setView view => page.setView view
  | .changeView change => page.modifyView change

/-- The page behind operations, one after the other. -/
def run (page : Page) (operations : List Operation) : Page := operations.foldl step page

/-- A new page over a transport that takes the frames at the places where `accepts` holds. -/
def opened (accepts : Nat → Bool) : Page :=
  { fresh with session := Session.fresh.setAccepts accepts }

@[simp] theorem run_nil : page.run [] = page := rfl

@[simp] theorem run_cons (operation : Operation) (operations : List Operation) :
    page.run (operation :: operations) = (page.step operation).run operations := rfl

/-- A run is made of the runs of its parts. -/
theorem run_append (first second : List Operation) :
    page.run (first ++ second) = (page.run first).run second :=
  List.foldl_append

theorem run_concat (operations : List Operation) (operation : Operation) :
    page.run (operations ++ [operation]) = (page.run operations).step operation :=
  page.run_append operations [operation]

/-- With an empty queue, nothing is left to handle. -/
theorem run_handleNext_of_empty (hEmpty : page.session.queue = []) (count : Nat) :
    page.run (List.replicate count .handleNext) = page := by
  induction count with
  | zero => rfl
  | succ count ih =>
      have hStep : page.step .handleNext = page := by simp [step, pumpOne, hEmpty]
      rw [List.replicate_succ, run_cons, hStep, ih]

/-- Working off the queue is a run in which one reply after the other is handled. -/
theorem pump_eq_run :
    page.pump.2 = page.run (List.replicate page.pumpBound .handleNext) := by
  unfold pump
  induction page.pumpBound generalizing page with
  | zero => rfl
  | succ fuel ih =>
      rw [List.replicate_succ, run_cons, pumpUpTo]
      split
      · rename_i hNone
        have hEmpty : page.session.queue = [] := by
          unfold pumpOne at hNone
          split at hNone
          · assumption
          · cases hNone
        rw [step, hNone, Option.getD_none, run_handleNext_of_empty page hEmpty]
      · rename_i next hNext
        rw [step, hNext, Option.getD_some]
        exact ih next

/-- Apart from the arrival and the handling of replies, an operation only uses the session. -/
theorem uses_step {operation : Operation} (hArrival : ∀ frame, operation ≠ .receive frame)
    (hHandling : operation ≠ .handleNext) : page.Uses (page.step operation) := by
  cases operation with
  | start => exact page.uses_invoke _ _
  | loadTable files => exact page.uses_invoke _ _
  | newView tableId => exact (page.quiet_newView tableId).toUses
  | showTable tableId => exact page.uses_showTable tableId
  | goHome => exact page.uses_goHome
  | noRows => exact page.uses_withView fun view session => view.uses_requestOrder session _
  | showAllRows => exact page.uses_showAllRows
  | showColumn name directive =>
      exact page.uses_withView fun view session => view.uses_showColumn session name directive
  | requestRange name => exact page.uses_requestRange name
  | refresh => exact page.quiet_refresh.toUses
  | selectPrevious | selectNext | showRange | closeRange | changeView =>
      exact ⟨.quiet .refl, rfl⟩
  | cancel requestId => exact ⟨.quiet (.cancel .refl requestId), rfl⟩
  | cancelAll => exact ⟨.quiet (Session.quiet_cancelEach _ _), rfl⟩
  | reportError message => exact (page.quiet_reportError message).toUses
  | receive frame => exact absurd rfl (hArrival frame)
  | handleNext => exact absurd rfl hHandling
  | invoke call observer => exact page.uses_invoke call observer
  | setView view => exact (page.quiet_setView view).toUses

/-- Replies are handled, or a reply comes in, or else the user acts. -/
theorem Operation.handles_or (operation : Operation) :
    operation = .handleNext ∨ (∃ frame, operation = .receive frame) ∨
      (∀ frame, operation ≠ .receive frame) ∧ operation ≠ .handleNext := by
  by_cases hHandling : operation = .handleNext
  · exact Or.inl hHandling
  by_cases hArrival : ∃ frame, operation = .receive frame
  · exact Or.inr (Or.inl hArrival)
  · exact Or.inr (Or.inr ⟨fun frame hSame => hArrival ⟨frame, hSame⟩, hHandling⟩)

/-- What the user does only uses the session. -/
theorem step_cases (operation : Operation) :
    operation = .handleNext ∨ (∃ frame, operation = .receive frame) ∨
      operation ≠ .handleNext ∧ page.Uses (page.step operation) := by
  rcases operation.handles_or with hHandling | hArrival | ⟨hOther, hHandling⟩
  · exact Or.inl hHandling
  · exact Or.inr (Or.inl hArrival)
  · exact Or.inr (Or.inr ⟨hHandling, page.uses_step hOther hHandling⟩)

end RemoteTable.Page
