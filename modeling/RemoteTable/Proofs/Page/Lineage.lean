import Mathlib.Data.List.Induction
import RemoteTable.Proofs.Page.Feeding
import RemoteTable.Proofs.Page.Succession

/-! The views that are made in a run. They are numbered in turn, the table of the first one is the home of
the page, and the last one is the current view. -/

namespace RemoteTable

/-- The table that an observer shows at the end of its request. -/
def Observer.table? : Observer → Option ObjectId
  | tableLoader table => table
  | _ => none

namespace Page

variable {page next : Page}

/-- The observer of the request that the first waiting reply ends. -/
def ending? (page : Page) : Option Observer :=
  page.session.queue.head?.bind fun frame =>
    (page.session.pending? frame.requestId).bind fun pending =>
      if (pending.receiver.react frame.reply).1.finished then some pending.receiver.observer else none

/-- The table for which an operation makes a view. -/
def opens? (page : Page) : Operation → Option ObjectId
  | .newView tableId | .showTable tableId => some tableId
  | .goHome => page.homeId
  | .handleNext => page.ending?.bind Observer.table?
  | _ => none

/-- The view that an operation makes. -/
def createdIn (page : Page) (operation : Operation) : Option View :=
  (page.opens? operation).bind fun _ => (page.step operation).view

/-- The views that are made in a run, in order. -/
def created (page : Page) : List Operation → List View
  | [] => []
  | operation :: rest => (page.createdIn operation).toList ++ (page.step operation).created rest

/-- The views of a longer run are those of its parts. -/
theorem created_append (page : Page) (first second : List Operation) :
    page.created (first ++ second) = page.created first ++ (page.run first).created second := by
  induction first generalizing page with
  | nil => rfl
  | cons operation rest ih => rw [List.cons_append, created, ih, created, List.append_assoc, run_cons]

/-- A view of this table takes the place of the current one, or nothing does. -/
structure Opens (page next : Page) (opened : Option ObjectId) : Prop where
  home : next.homeId = page.homeId.or opened
  nextSerial : next.nextSerial = if opened.isSome then page.nextSerial + 1 else page.nextSerial
  view : next.view.map View.identity =
    (opened.map fun tableId => (page.nextSerial, tableId)).or (page.view.map View.identity)

namespace Opens

theorem newView (page : Page) (tableId : ObjectId) :
    page.Opens (page.newView tableId) (some tableId) :=
  ⟨page.homeId_newView tableId, page.nextSerial_newView tableId, rfl⟩

theorem showTable (page : Page) (tableId : ObjectId) :
    page.Opens (page.showTable tableId) (some tableId) where
  home := (homeId_withView _ _).trans (page.homeId_newView tableId)
  nextSerial := (nextSerial_withView _ _).trans (page.nextSerial_newView tableId)
  view := rfl

theorem stay (hDevelops : page.Develops next) (hHome : next.homeId = page.homeId)
    (hSerial : next.nextSerial = page.nextSerial) : page.Opens next none where
  home := hHome.trans Option.or_none.symm
  nextSerial := hSerial
  view := hDevelops.identity_eq hSerial

end Opens

section Ending

/-- No request ends without a reply. -/
theorem ending?_of_idle (hEmpty : page.session.queue = []) : page.ending? = none := by
  simp [ending?, hEmpty]

/-- A reply to no waiting request ends nothing. -/
theorem ending?_of_unknown {frame : ReplyFrame} (hQueue : page.session.queue.head? = some frame)
    (hUnknown : page.session.pending? frame.requestId = none) : page.ending? = none := by
  simp [ending?, hQueue, hUnknown]

variable (h : page.session.Balanced) {frame : ReplyFrame} {pending : Pending}
  (hPending : page.session.pending? frame.requestId = some pending)
  (hQueue : page.session.queue.head? = some frame)

include h hPending hQueue

/-- A value does not end its request. -/
theorem ending?_of_accepted {result : Json} {value : Option Double × Payload}
    (hNext : frame.reply = .next result)
    (hDecodes : pending.receiver.observer.decode result = .ok value) : page.ending? = none := by
  have hActive := (h.waiting hPending).1
  simp [ending?, hQueue, hPending, hNext, Receiver.react_of_decodes hActive hDecodes, hActive]

/-- Whatever is not a value ends the request it is for. -/
theorem ending?_of_ended (hEnds : ∀ result value, frame.reply = .next result →
    pending.receiver.observer.decode result ≠ .ok value) :
    page.ending? = some pending.receiver.observer := by
  have hActive := (h.waiting hPending).1
  simp [ending?, hQueue, hPending, Receiver.react_of_ends hActive hEnds]

end Ending

/-- Only the observer of a table makes a view at the end of its request. -/
theorem opens_onCompleted (observer : Observer) (page : Page) :
    page.Opens (observer.onCompleted page) observer.table? := by
  have hDevelops := develops_onCompleted observer page
  unfold Observer.onCompleted at hDevelops ⊢
  split at hDevelops
  · exact .stay hDevelops rfl rfl
  · exact .showTable page _
  · exact .stay hDevelops rfl rfl
  · refine .stay hDevelops ?_ ?_ <;> split <;> rfl
  all_goals exact .stay hDevelops rfl rfl

/-- A reply opens the table that the loader has been told, if it ends the request of one. -/
theorem opens_turn (h : page.session.Balanced) (hTurn : Turn page next) :
    page.Opens next (page.ending?.bind Observer.table?) := by
  have hDevelops := develops_turn h hTurn
  cases hTurn with
  | idle hEmpty =>
      rw [ending?_of_idle hEmpty]
      exact .stay hDevelops rfl rfl
  | unknown hQueue hUnknown =>
      rw [ending?_of_unknown hQueue hUnknown]
      exact .stay hDevelops rfl rfl
  | accepted hQueue hPending hDecodes =>
      rw [ending?_of_accepted h hPending hQueue rfl hDecodes]
      exact .stay hDevelops (homeId_resume ..) (nextSerial_resume ..)
  | @ended frame pending error hQueue hPending hEnds =>
      rw [finish_eq_onCompleted h hPending, ending?_of_ended h hPending hQueue hEnds, Option.bind_some]
      obtain ⟨hHome, hSerial, hView⟩ := opens_onCompleted pending.receiver.observer
        (page.concluded frame.requestId pending.receiver error)
      exact ⟨hHome, hSerial, hView⟩

/-- An operation opens exactly the table that is predicted from the page before it. -/
theorem opens_step (h : page.session.Balanced) {operation : Operation}
    (hOrdinary : operation.IsOrdinary) :
    page.Opens (page.step operation) (page.opens? operation) := by
  have hDevelops := develops_step h hOrdinary
  cases operation with
  | newView tableId => exact .newView page tableId
  | showTable tableId => exact .showTable page tableId
  | goHome =>
      simp only [step, goHome, opens?] at hDevelops ⊢
      split
      · rename_i hNone
        rw [hNone]
        exact .stay (.refl page) rfl rfl
      · rename_i tableId hHome
        rw [hHome]
        exact .showTable page tableId
  | handleNext => exact opens_turn h (turn_of_balanced h)
  | noRows | showColumn | requestRange =>
      exact .stay hDevelops (homeId_withView _ _) (nextSerial_withView _ _)
  | showAllRows =>
      refine .stay hDevelops ?_ ?_ <;> simp only [step, showAllRows] <;> split
      · rfl
      · exact homeId_withView _ _
      · rfl
      · exact nextSerial_withView _ _
  | refresh =>
      refine .stay hDevelops ?_ ?_ <;> simp only [step, refresh] <;> split
      · rfl
      · exact homeId_withView _ _
      · rfl
      · exact nextSerial_withView _ _
  | start | loadTable | selectPrevious | selectNext | showRange | closeRange | cancel | cancelAll
  | reportError | receive => exact .stay hDevelops rfl rfl
  | invoke | setView | changeView => exact hOrdinary.elim

/-- These are the views of the page, the current one last. -/
structure Lineage (page : Page) (views : List View) : Prop where
  serials : views.map View.serial = List.range page.nextSerial
  home : page.homeId = views.head?.map View.tableId
  current : page.view.map View.identity = views.getLast?.map View.identity

/-- A table that is opened adds its view at the end. -/
theorem Lineage.opens {views : List View} (h : page.Lineage views) {opened : Option ObjectId}
    (hOpens : page.Opens next opened) :
    next.Lineage (views ++ (opened.bind fun _ => next.view).toList) := by
  obtain ⟨hHome, hSerial, hView⟩ := hOpens
  cases opened with
  | none =>
      rw [Option.bind_none, Option.toList_none, List.append_nil]
      rw [Option.or_none] at hHome
      exact ⟨hSerial ▸ h.serials, hHome.trans h.home, hView.trans h.current⟩
  | some tableId =>
      obtain ⟨view, hNew, hIdentity⟩ := Option.map_eq_some_iff.mp hView
      obtain ⟨hNumber, hTable⟩ := Prod.mk.inj hIdentity
      rw [Option.bind_some, hNew, Option.toList_some]
      constructor
      · rw [List.map_append, h.serials, hSerial, Option.isSome_some, if_pos rfl, List.range_succ,
          List.map_singleton, hNumber]
      · rw [hHome, h.home, List.head?_append, List.head?_singleton]
        cases views.head? with
        | none => rw [Option.map_none, Option.none_or, Option.none_or, Option.map_some, hTable]
        | some first => rfl
      · rw [List.getLast?_concat, hNew]

/-- In every run, the views are numbered in the order in which they are made, the first one is the
home table, and the last one is current. -/
theorem lineage_run (accepts : Nat → Bool) {operations : List Operation}
    (hOrdinary : ∀ operation ∈ operations, operation.IsOrdinary) :
    ((opened accepts).run operations).Lineage ((opened accepts).created operations) := by
  induction operations using List.reverseRecOn with
  | nil => exact ⟨rfl, rfl, rfl⟩
  | append_singleton operations operation ih =>
      have hBefore := fun other hOther => hOrdinary other (List.mem_append_left _ hOther)
      have hStart : (opened accepts).session.Balanced := .fresh accepts
      rw [created_append, run_concat, created, created, List.append_nil]
      exact (ih hBefore).opens (opens_step (balanced_run hStart operations)
        (hOrdinary operation (List.mem_append_right _ (List.mem_singleton_self _))))

end Page

end RemoteTable
