import Mathlib.Logic.Relation
import RemoteTable.Proofs.Page.Handling

/-! Whatever the user does to a page, and whatever an observer does at the end of its request, is
made of a few moves. What every move keeps is kept by all of that. -/

namespace RemoteTable

namespace Page

/-- The page after its view has acted on the session. -/
def withOutcome (page : Page) (outcome : View × Session) : Page :=
  { page with view := some outcome.1, session := outcome.2 }

/-- The methods of the requests on the way to the first table. -/
def bootstrapMethods : List String := ["prepareFiles", "loadTable"]

/-- The moves of a page, apart from replies that come in and are handled. Those that load a table, or
show another one than the first, count only if `loads` holds. -/
inductive Move (loads : Prop) (page : Page) : Page → Prop where
  | report (message : String) : Move loads page (page.reportError message)
  | cancel (id : Nat) : Move loads page (page.cancel id).2
  /-- A request for an observer that shows no rows. -/
  | invoke (call : Call) {observer : Observer}
      (hObserver : ∀ serial generation, observer ≠ .renderer serial generation)
      (hMethod : loads ∧ call.method ∈ bootstrapMethods ∨
        call.method = "range" ∧ ¬ observer.IsBootstrap) :
      Move loads page (page.invoke call observer).2
  /-- The view asks for rows, in place of those it has asked for last. -/
  | ask {view : View} (hView : page.view = some view) {order : SortOrder} {call : Call}
      (hCall : view.AsksFor order call) (hForms : view.Forms order) :
      Move loads page (page.withOutcome ({ view with order := order }.issue call page.session))
  | adjust {view changed : View} (hView : page.view = some view) (hAdjusts : view.Adjusts changed) :
      Move loads page { page with view := some changed }
  | newView (tableId : ObjectId) (hTable : loads ∨ page.homeId = some tableId) :
      Move loads page (page.newView tableId)
  | setRange (range : Option Range) : Move loads page { page with range := range }

/-- Any number of moves, one after the other. -/
abbrev Moves (loads : Prop) : Page → Page → Prop := Relation.ReflTransGen (Move loads)

variable {loads : Prop} {page : Page}

theorem Move.moves {next : Page} (h : Move loads page next) : Moves loads page next :=
  Relation.ReflTransGen.single h

/-- A move asks for one request at most. -/
theorem Move.uses {next : Page} (h : Move loads page next) : page.session.Uses next.session := by
  cases h with
  | report message => exact .quiet (.report .refl message)
  | cancel id => exact .quiet (.cancel .refl id)
  | invoke call => exact .issue .refl call _
  | ask hView hCall => exact View.uses_issue _ _ _
  | adjust | setRange => exact .quiet .refl
  | newView tableId => exact .quiet (page.quiet_newView tableId).session

theorem withView_of_none {action : View → Session → View × Session} (hView : page.view = none) :
    page.withView action = page := by
  simp [withView, hView]

/-- What the view does is done to the page with the view. -/
theorem withView_of_some {action : View → Session → View × Session} {view : View}
    (hView : page.view = some view) :
    page.withView action = page.withOutcome (action view page.session) := by
  simp only [withView, hView]
  rfl

theorem withOutcome_self {view : View} (hView : page.view = some view) :
    page.withOutcome (view, page.session) = page := by
  cases page
  cases hView
  rfl

/-- What a view does is made of moves if what each view does is. -/
theorem moves_withView {action : View → Session → View × Session}
    (hAction : ∀ view, page.view = some view →
      Moves loads page (page.withOutcome (action view page.session))) :
    Moves loads page (page.withView action) := by
  cases hView : page.view with
  | none => rw [withView_of_none hView]
  | some view =>
      rw [withView_of_some hView]
      exact hAction view hView

section View

variable {view : View} (hView : page.view = some view)

include hView

/-- A report of the view is one of the page. -/
theorem moves_report (message : String) :
    Moves loads page (page.withOutcome (view, page.session.reportError message)) := by
  have hSame : page.withOutcome (view, page.session.reportError message) =
      page.reportError message := by
    simp only [withOutcome, hView.symm]
    rfl
  rw [hSame]
  exact (Move.report message).moves

/-- Asking for rows notes the order and the new request. -/
theorem moves_requestOrder {order : SortOrder} (hForms : view.Forms order) :
    Moves loads page (page.withOutcome (view.requestOrder order page.session)) :=
  (Move.ask hView (Or.inl rfl) hForms).moves

/-- The schema is asked for with an empty order, which a new view has anyway. -/
theorem moves_requestSchema (hOrder : view.order = .empty) :
    Moves loads page (page.withOutcome (view.requestSchema page.session)) := by
  have hSame : { view with order := .empty } = view := by rw [← hOrder]
  have hAsk : Moves loads page (page.withOutcome ({ view with order := .empty }.issue
      (.bare view.tableId "getSchema") page.session)) :=
    (Move.ask hView (Or.inr ⟨rfl, rfl⟩) .empty).moves
  rw [hSame] at hAsk
  exact hAsk

/-- Without a schema, the view reports that; else it completes its order. -/
theorem moves_showAllRows : Moves loads page (page.withOutcome (view.showAllRows page.session)) := by
  unfold View.showAllRows
  split
  · exact moves_report hView _
  · exact moves_requestOrder hView (.complete ‹_›)

/-- Every way to show a column forms an order, or does nothing for an unknown name. -/
theorem moves_showColumn (name : String) (directive : SortDirective) :
    Moves loads page (page.withOutcome (view.showColumn name directive page.session)) := by
  have hStay : Moves loads page (page.withOutcome (view, page.session)) := by
    rw [withOutcome_self hView]
  unfold View.showColumn
  split
  · exact moves_requestOrder hView (.hide name)
  all_goals
    split
    · exact hStay
    · exact moves_requestOrder hView (.promote ‹_› _)

/-- The observer of a range shows no rows. -/
theorem moves_requestRange (name : String) :
    Moves loads page (page.withOutcome (view, view.requestRange name page.session)) := by
  unfold View.requestRange
  split
  · rw [withOutcome_self hView]
  · rename_i column _
    have hSame : page.withOutcome (view, (page.session.invoke (.of view.tableId "range" name)
        (.rangeCollector view.serial column none)).2) =
        (page.invoke (.of view.tableId "range" name) (.rangeCollector view.serial column none)).2 := by
      simp only [withOutcome, hView.symm]
      rfl
    rw [hSame]
    exact Move.moves (.invoke _ (by nofun) (Or.inr ⟨rfl, id⟩))

/-- The snapshot is drawn again, or there is none. -/
theorem moves_refresh : Moves loads page (page.withOutcome (view.refresh page.session)) := by
  unfold View.refresh
  split
  · rename_i data hSnapshot
    exact (Move.adjust hView (.again hSnapshot)).moves
  · exact moves_report hView _

end View

theorem moves_modifyView {change : View → View} (hChange : ∀ view : View, view.Adjusts (change view)) :
    Moves loads page (page.modifyView change) := by
  cases hView : page.view with
  | none =>
      have hSame : page.modifyView change = page := by
        simp only [modifyView, hView, Option.map_none]
        rw [← hView]
      rw [hSame]
  | some view =>
      have hSame : page.modifyView change = { page with view := some (change view) } := by
        simp only [modifyView, hView, Option.map_some]
      rw [hSame]
      exact (Move.adjust hView (hChange view)).moves

/-- Requests are cancelled one after the other. -/
theorem moves_cancelEach (page : Page) (ids : List Nat) :
    Moves loads page { page with session := (page.session.cancelEach ids).2 } := by
  induction ids generalizing page with
  | nil => exact .refl
  | cons id rest ih => exact .head (.cancel id) (ih (page.cancel id).2)

/-- Showing a table makes a view, which then asks for the schema. -/
theorem moves_showTable {tableId : ObjectId} (hTable : loads ∨ page.homeId = some tableId) :
    Moves loads page (page.showTable tableId) :=
  .head (.newView tableId hTable) <| moves_withView fun view hView => by
    cases hView
    exact moves_requestSchema rfl rfl

/-- The operation asks for a table, or shows one that need not be the first. -/
def Operation.Loads : Operation → Prop
  | .start | .loadTable _ | .newView _ | .showTable _ => True
  | _ => False

/-- What the user does is made of moves. -/
theorem moves_step {operation : Operation} (hOrdinary : operation.IsOrdinary)
    (hArrival : ∀ frame, operation ≠ .receive frame) (hHandling : operation ≠ .handleNext) :
    Moves operation.Loads page (page.step operation) := by
  cases operation with
  | start | loadTable =>
      exact Move.moves (.invoke _ (by nofun) (Or.inl ⟨trivial, by simp [Call.bare, bootstrapMethods]⟩))
  | newView tableId => exact (Move.newView tableId (Or.inl trivial)).moves
  | showTable tableId => exact moves_showTable (Or.inl trivial)
  | goHome =>
      simp only [step, goHome]
      split
      · exact .refl
      · exact moves_showTable (Or.inr ‹_›)
  | noRows => exact moves_withView fun view hView => moves_requestOrder hView .empty
  | showAllRows =>
      simp only [step, showAllRows]
      split
      · exact (Move.report _).moves
      · exact moves_withView fun view hView => moves_showAllRows hView
  | showColumn name directive =>
      exact moves_withView fun view hView => moves_showColumn hView name directive
  | requestRange name =>
      show Moves _ page (page.withView fun view session => (view, view.requestRange name session))
      exact moves_withView fun view hView => moves_requestRange hView name
  | refresh =>
      simp only [step, refresh]
      split
      · exact (Move.report _).moves
      · exact moves_withView fun view hView => moves_refresh hView
  | selectPrevious => exact moves_modifyView fun _ => .previous
  | selectNext => exact moves_modifyView fun _ => .next
  | showRange range => exact (Move.setRange (some range)).moves
  | closeRange => exact (Move.setRange none).moves
  | cancel requestId => exact (Move.cancel requestId).moves
  | cancelAll => exact moves_cancelEach page _
  | reportError message => exact (Move.report message).moves
  | receive frame => exact absurd rfl (hArrival frame)
  | handleNext => exact absurd rfl hHandling
  | invoke | setView | changeView => exact hOrdinary.elim

/-- What an observer does at the end of its request is made of moves, unless it shows rows: then the
view takes note that none are in flight. -/
theorem moves_onCompleted {observer : Observer}
    (hObserver : ∀ serial generation, observer ≠ .renderer serial generation) :
    Moves True page (observer.onCompleted page) := by
  unfold Observer.onCompleted
  split
  · exact Move.moves (.invoke _ (by nofun) (Or.inl ⟨trivial, by simp [Call.bare, bootstrapMethods]⟩))
  · exact moves_showTable (Or.inl trivial)
  · exact absurd rfl (hObserver _ _)
  · split
    · exact (Move.setRange _).moves
    · exact .refl
  all_goals exact .refl

end Page

end RemoteTable
