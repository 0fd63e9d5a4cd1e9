import RemoteTable.Proofs.Page.Balance
import RemoteTable.Proofs.Page.Moves
import RemoteTable.Proofs.Table.Showing

/-! Invariants of the current view. What holds of new views, and is kept by everything that happens to
a view, holds of the current view throughout a run. -/

namespace RemoteTable

/-- New views have the property, and whatever happens to a view keeps it. -/
structure View.Invariant (motive : View → Prop) : Prop where
  new : ∀ tableId serial, motive (.new tableId serial)
  issue : ∀ (view : View) order call session, view.AsksFor order call → view.Forms order →
    motive view → motive ({ view with order := order }.issue call session).1
  adjusts : ∀ view changed, View.Adjusts view changed → motive view → motive changed
  acceptSnapshot : ∀ view generation data, motive view →
    motive (view.acceptSnapshot generation data)
  requestFinished : ∀ view generation, motive view → motive (view.requestFinished generation)

namespace View.Invariant

variable {motive : View → Prop} (h : View.Invariant motive)

include h

/-- A value keeps the property, since it is a snapshot for the view or nothing. -/
theorem display (observer : Observer) (payload : Payload) {view : View} (hView : motive view) :
    motive (observer.display payload view) := by
  unfold Observer.display
  split
  · split
    · exact h.acceptSnapshot view _ _ hView
    · exact hView
  · exact hView

/-- So does the end of a request. -/
theorem conclude (observer : Observer) {view : View} (hView : motive view) :
    motive (observer.conclude view) := by
  unfold Observer.conclude
  split
  · split
    · exact h.requestFinished view _ hView
    · exact hView
  · exact hView

end View.Invariant

namespace Page

/-- The current view has the property, if there is a view. -/
def Shows (page : Page) (motive : View → Prop) : Prop :=
  ∀ view, page.view = some view → motive view

section Shows

variable {motive : View → Prop} {loads : Prop} {page next : Page}

theorem Shows.of_eq (hShows : page.Shows motive) (hView : next.view = page.view) :
    next.Shows motive := by
  rw [Shows, hView]
  exact hShows

/-- A change of the view that keeps the property keeps it on the page. -/
theorem Shows.map (hShows : page.Shows motive) {change : View → View}
    (hView : next.view = page.view.map change)
    (hChange : ∀ view, motive view → motive (change view)) : next.Shows motive := by
  intro changed hChanged
  rw [hView, Option.map_eq_some_iff] at hChanged
  obtain ⟨view, hBefore, rfl⟩ := hChanged
  exact hChange view (hShows view hBefore)

variable (h : View.Invariant motive)

include h

/-- A move makes a new view, or it changes the current one in a way that the invariant names. -/
theorem shows_move (hShows : page.Shows motive) (hMove : Move loads page next) : next.Shows motive := by
  cases hMove with
  | report | cancel | invoke | setRange => exact hShows
  | ask hView hCall hForms =>
      rintro other ⟨⟩
      exact h.issue _ _ _ _ hCall hForms (hShows _ hView)
  | adjust hView hAdjusts =>
      rintro other ⟨⟩
      exact h.adjusts _ _ hAdjusts (hShows _ hView)
  | newView tableId =>
      rintro other ⟨⟩
      exact h.new _ _

theorem shows_moves (hShows : page.Shows motive) (hMoves : Moves loads page next) :
    next.Shows motive := by
  induction hMoves with
  | refl => exact hShows
  | tail _ hMove ih => exact shows_move h ih hMove

/-- The end of a request keeps the property, also if it makes a new view. -/
theorem shows_onCompleted (hShows : page.Shows motive) (observer : Observer) :
    (observer.onCompleted page).Shows motive := by
  rcases observer.renders_or with ⟨serial, generation, rfl⟩ | hOther
  · rw [Observer.onCompleted_renderer]
    exact hShows.map rfl fun view => h.conclude _
  · exact shows_moves h hShows (moves_onCompleted hOther)

/-- The handling of a reply keeps the property of the current view. -/
theorem shows_turn (hShows : page.Shows motive) (hBalanced : page.session.Balanced)
    (hTurn : Turn page next) : next.Shows motive := by
  cases hTurn with
  | idle => exact hShows
  | unknown => exact hShows.of_eq rfl
  | @accepted id result pending done payload hQueue hPending hDecodes =>
      exact hShows.map (view_resume _ _ _ _ _ _) fun view =>
        h.display pending.receiver.observer payload
  | @ended frame pending error hQueue hPending hEnds =>
      rw [finish_eq_onCompleted hBalanced hPending]
      have hConcluded : (page.concluded frame.requestId pending.receiver error).Shows motive :=
        hShows.of_eq rfl
      exact shows_onCompleted h hConcluded pending.receiver.observer

/-- Each operation does. -/
theorem shows_step (hShows : page.Shows motive) (hBalanced : page.session.Balanced)
    {operation : Operation} (hOrdinary : operation.IsOrdinary) :
    (page.step operation).Shows motive := by
  rcases operation.handles_or with rfl | ⟨frame, rfl⟩ | ⟨hOther, hHandling⟩
  · exact shows_turn h hShows hBalanced (turn_of_balanced hBalanced)
  · exact hShows.of_eq rfl
  · exact shows_moves h hShows (moves_step hOrdinary hOther hHandling)

/-- So the property is kept in each run. -/
theorem shows_run (hShows : page.Shows motive) (hBalanced : page.session.Balanced)
    {operations : List Operation} (hOrdinary : ∀ operation ∈ operations, operation.IsOrdinary) :
    (page.run operations).Shows motive :=
  run_keeps (motive := fun other => other.Shows motive)
    (fun operation hOperation _ hBefore hShown =>
      shows_step h hShown hBefore (hOrdinary operation hOperation)) hBalanced hShows

/-- A page has no view at first, so the current one has the property in every run. -/
theorem shows_opened_run (accepts : Nat → Bool) {operations : List Operation}
    (hOrdinary : ∀ operation ∈ operations, operation.IsOrdinary) :
    ((opened accepts).run operations).Shows motive := by
  refine shows_run h ?_ (.fresh accepts) hOrdinary
  rintro view ⟨⟩

end Shows

end Page

namespace View

/-- All that is drawn of the view is its snapshot. -/
structure Drawn (view : View) : Prop where
  settled : view.Settled
  empty : view.snapshot = none → view.rendering = .empty

/-- Drawing a snapshot makes it all that is drawn. -/
theorem drawn_update (view : View) (data : Snapshot) : (view.update data).Drawn where
  settled := view.settled_update data
  empty hNone := by
    rw [snapshot_update] at hNone
    cases hNone

/-- Nothing but its snapshot is ever drawn of a view. -/
theorem invariant_drawn : View.Invariant Drawn where
  new tableId serial := ⟨by rintro data ⟨⟩, fun _ => rfl⟩
  issue view order call session _ _ h := by
    rw [issue_eq]
    exact ⟨h.settled.asking order _ _, h.empty⟩
  adjusts view changed hAdjusts h := by
    cases hAdjusts with
    | previous => exact ⟨h.settled.selectPrevious, h.empty⟩
    | next =>
        refine ⟨h.settled.selectNext, ?_⟩
        unfold View.selectNext
        split <;> exact h.empty
    | again => exact view.drawn_update _
  acceptSnapshot view generation data h := by
    unfold View.acceptSnapshot
    split
    · exact drawn_update _ data
    · exact h
  requestFinished view generation h := by
    unfold View.requestFinished
    split
    · exact ⟨h.settled.asking view.order view.generation none, h.empty⟩
    · exact h

end View

namespace Page

variable {page : Page} {view : View}

/-- Refreshing draws the snapshot of the view again. -/
theorem refresh_of_snapshot (hView : page.view = some view) {data : Snapshot}
    (hSnapshot : view.snapshot = some data) :
    page.refresh = { page with view := some (view.update data) } := by
  simp [refresh, withView, hView, View.refresh, hSnapshot]

theorem refresh_of_snapshot_eq_none (hSnapshot : page.view.bind View.snapshot = none) :
    page.refresh = page.reportError "Nothing to refresh" := by
  cases hView : page.view with
  | none => simp [refresh, hView]
  | some view =>
      rw [hView, Option.bind_some] at hSnapshot
      simp [refresh, withView, hView, View.refresh, hSnapshot, reportError]

/-- Showing the snapshot once more changes nothing. In every run of the operations of the user, over any
transport and with any replies, a refresh leaves the whole page as it is if its view has a snapshot: the
view stays the same in all that it consists of, nothing is sent, and no error is reported. It does not
matter whether the columns are known, what has been asked for since and what has become of that, and where
the cursor is. Without a snapshot an error is reported, and nothing else happens. -/
theorem refresh_changes_nothing (accepts : Nat → Bool) (operations : List Operation)
    (hOrdinary : ∀ operation ∈ operations, operation.IsOrdinary) :
    let page := (opened accepts).run operations
    (∀ view data, page.view = some view → view.snapshot = some data → page.refresh = page) ∧
    (page.view.bind View.snapshot = none →
      page.refresh = page.reportError "Nothing to refresh") := by
  intro page
  have hDrawn : page.Shows View.Drawn := shows_opened_run View.invariant_drawn accepts hOrdinary
  refine ⟨fun view data hView hSnapshot => ?_, refresh_of_snapshot_eq_none⟩
  rw [refresh_of_snapshot hView hSnapshot, (hDrawn view hView).settled data hSnapshot, ← hView]

/-- The transport takes no frame after the first one. An order has failed, another one is in flight, and
the cursor has moved. -/
theorem refresh_changes_nothing_of_failed_order :
    let column (name : String) : Json := .object [("kind", .string "Integer"), ("name", .string name),
      ("allowMissing", .bool false)]
    let known : Json := .object [("done", .int 1), ("data", .object [
      ("schema", .array [column "A", column "B"]), ("rowCount", .int 4)])]
    let shown : List Operation := [.showTable ⟨"t"⟩]
    let operations : List Operation := shown ++ [.receive ⟨1, .next known⟩, .handleNext,
      .receive ⟨1, .completed⟩, .handleNext, .showColumn "A" .ascending, .handleNext,
      .showColumn "B" .descending, .selectNext]
    let page := (opened (· == 0)).run operations
    let empty := (opened (· == 0)).run shown
    (∀ operation ∈ operations, operation.IsOrdinary) ∧ page.session.lastError.isSome ∧
    (∃ view data, page.view = some view ∧ view.snapshot = some data ∧ view.inFlight.isSome ∧
      view.order ≠ view.snapshotOrder ∧ view.cursor = 1 ∧ page.refresh = page) ∧
    empty.view.bind View.snapshot = none ∧ empty.refresh = empty.reportError "Nothing to refresh" := by
  intro column known shown operations page empty
  have hOrdinary : ∀ operation ∈ operations, operation.IsOrdinary := by
    simp [operations, shown, Operation.IsOrdinary]
  have hShown : ∀ operation ∈ shown, operation.IsOrdinary := fun operation hOperation =>
    hOrdinary operation (List.mem_append_left _ hOperation)
  have hState : page.session.lastError.isSome ∧ (page.view.map fun view =>
      (view.snapshot.isSome, view.inFlight.isSome, decide (view.order ≠ view.snapshotOrder),
        view.cursor)) = some (true, true, true, 1) := by decide +kernel
  have hNone : empty.view.bind View.snapshot = none := by decide +kernel
  obtain ⟨hFailed, hParts⟩ := hState
  obtain ⟨view, hView, hParts⟩ := Option.map_eq_some_iff.mp hParts
  simp only [Prod.mk.injEq, decide_eq_true_eq] at hParts
  obtain ⟨hSnapshot, hInFlight, hOrder, hCursor⟩ := hParts
  obtain ⟨data, hData⟩ := Option.isSome_iff_exists.mp hSnapshot
  have hSame := (refresh_changes_nothing (· == 0) operations hOrdinary).1 view data hView hData
  exact ⟨hOrdinary, hFailed, ⟨view, data, hView, hData, hInFlight, hOrder, hCursor, hSame⟩, hNone,
    (refresh_changes_nothing (· == 0) shown hShown).2 hNone⟩

end Page

end RemoteTable
