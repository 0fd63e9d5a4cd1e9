import RemoteTable.Proofs.Page.Balance
import RemoteTable.Proofs.Page.Moves
import RemoteTable.Proofs.Table.Showing

/-! The views of a page, one after the other. As long as a view is the current one it keeps its number
and its columns, and a view that takes its place has a number that was not given before. -/

namespace RemoteTable

namespace View

/-- What a view keeps until another one takes its place. -/
def identity (view : View) : Nat × ObjectId := (view.serial, view.tableId)

/-- The same view later on. -/
structure Becomes (view later : View) : Prop where
  serial : later.serial = view.serial
  tableId : later.tableId = view.tableId
  schema : ∀ schema, view.schema = some schema → later.schema = some schema

namespace Becomes

variable {view later : View}

/-- The same view keeps its number and its table. -/
theorem identity_eq (h : view.Becomes later) : later.identity = view.identity := by
  rw [identity, h.serial, h.tableId, identity]

theorem refl (view : View) : view.Becomes view := ⟨rfl, rfl, fun _ hSchema => hSchema⟩

theorem trans {last : View} (left : view.Becomes later) (right : later.Becomes last) :
    view.Becomes last where
  serial := right.serial.trans left.serial
  tableId := right.tableId.trans left.tableId
  schema schema hSchema := right.schema schema (left.schema schema hSchema)

/-- What is shown of a table does not change its columns once they are known. -/
theorem update (view : View) (data : Snapshot) : view.Becomes (view.update data) where
  serial := view.serial_update data
  tableId := view.tableId_update data
  schema schema hSchema := by rw [schema_update, hSchema, Option.some_or]

theorem adjusts (h : view.Adjusts later) : view.Becomes later := by
  cases h with
  | previous => exact ⟨rfl, rfl, fun _ hSchema => hSchema⟩
  | next =>
      unfold selectNext
      split <;> exact ⟨rfl, rfl, fun _ hSchema => hSchema⟩
  | again => exact update view _

/-- A snapshot sets the columns of a view that has none, and no others. -/
theorem acceptSnapshot (view : View) (generation : Nat) (data : Snapshot) :
    view.Becomes (view.acceptSnapshot generation data) := by
  unfold View.acceptSnapshot
  split
  · have hUpdated := update { view with snapshotOrder := view.order } data
    exact ⟨hUpdated.serial, hUpdated.tableId, hUpdated.schema⟩
  · exact refl view

theorem requestFinished (view : View) (generation : Nat) :
    view.Becomes (view.requestFinished generation) := by
  unfold View.requestFinished
  split <;> exact ⟨rfl, rfl, fun _ hSchema => hSchema⟩

theorem issue (view : View) (order : SortOrder) (call : Call) (session : Session) :
    view.Becomes ({ view with order := order }.issue call session).1 := by
  rw [issue_eq]
  exact ⟨rfl, rfl, fun _ hSchema => hSchema⟩

theorem display (observer : Observer) (payload : Payload) (view : View) :
    view.Becomes (observer.display payload view) := by
  unfold Observer.display
  split
  · split
    · exact acceptSnapshot view _ _
    · exact refl view
  · exact refl view

theorem conclude (observer : Observer) (view : View) : view.Becomes (observer.conclude view) := by
  unfold Observer.conclude
  split
  · split
    · exact requestFinished view _
    · exact refl view
  · exact refl view

end Becomes

end View

namespace Page

/-- Number of the current view. -/
def serial? (page : Page) : Option Nat := page.view.map View.serial

/-- The number of the current view will not be given again. -/
def Numbered (page : Page) : Prop :=
  ∀ view, page.view = some view → view.serial < page.nextSerial

/-- A later page shows the same view, or one with a number that has been given since. -/
structure Develops (page next : Page) : Prop where
  nextSerial : page.nextSerial ≤ next.nextSerial
  stays : page.view.isSome → next.view.isSome
  view : ∀ later, next.view = some later →
    (∃ view, page.view = some view ∧ view.Becomes later) ∨
      page.nextSerial ≤ later.serial ∧ later.serial < next.nextSerial

namespace Develops

variable {page middle next : Page}

/-- A change of what the view shows. -/
theorem map {change : View → View} (hView : next.view = page.view.map change)
    (hChange : ∀ view : View, view.Becomes (change view))
    (hSerial : next.nextSerial = page.nextSerial) : page.Develops next where
  nextSerial := Nat.le_of_eq hSerial.symm
  stays hSome := by
    rw [hView, Option.isSome_map]
    exact hSome
  view later hLater := by
    rw [hView, Option.map_eq_some_iff] at hLater
    obtain ⟨view, hBefore, rfl⟩ := hLater
    exact Or.inl ⟨view, hBefore, hChange view⟩

theorem of_eq (hView : next.view = page.view) (hSerial : next.nextSerial = page.nextSerial) :
    page.Develops next :=
  .map (hView.trans Option.map_id_apply.symm) .refl hSerial

theorem refl (page : Page) : page.Develops page := of_eq rfl rfl

theorem trans (left : page.Develops middle) (right : middle.Develops next) : page.Develops next where
  nextSerial := Nat.le_trans left.nextSerial right.nextSerial
  stays hSome := right.stays (left.stays hSome)
  view later hLater := by
    rcases right.view later hLater with ⟨between, hBetween, hBecomes⟩ | ⟨hNew, hGiven⟩
    · rcases left.view between hBetween with ⟨view, hView, hBefore⟩ | ⟨hNew, hGiven⟩
      · exact Or.inl ⟨view, hView, hBefore.trans hBecomes⟩
      · rw [← hBecomes.serial] at hNew hGiven
        exact Or.inr ⟨hNew, Nat.lt_of_lt_of_le hGiven right.nextSerial⟩
    · exact Or.inr ⟨Nat.le_trans left.nextSerial hNew, hGiven⟩

/-- Later views have later numbers. -/
theorem numbered (h : page.Develops next) (hNumbered : page.Numbered) : next.Numbered := by
  intro later hLater
  rcases h.view later hLater with ⟨view, hView, hBecomes⟩ | ⟨-, hGiven⟩
  · rw [hBecomes.serial]
    exact Nat.lt_of_lt_of_le (hNumbered view hView) h.nextSerial
  · exact hGiven

/-- A view is replaced only when a number is given. -/
theorem identity_eq (h : page.Develops next) (hSerial : next.nextSerial = page.nextSerial) :
    next.view.map View.identity = page.view.map View.identity := by
  cases hLater : next.view with
  | none =>
      have hView : page.view = none := by
        rw [← Option.not_isSome_iff_eq_none]
        intro hSome
        have hStays := h.stays hSome
        rw [hLater] at hStays
        cases hStays
      rw [hView]
  | some later =>
      rcases h.view later hLater with ⟨view, hView, hBecomes⟩ | ⟨hNew, hGiven⟩
      · rw [hView, Option.map_some, Option.map_some, hBecomes.identity_eq]
      · omega

/-- The view is the same as long as no number is given. -/
theorem serial?_of_nextSerial (h : page.Develops next) (hSerial : next.nextSerial = page.nextSerial) :
    next.serial? = page.serial? := by
  have hSame := congrArg (Option.map Prod.fst) (h.identity_eq hSerial)
  rw [Option.map_map, Option.map_map] at hSame
  exact hSame

/-- A view that still has its number has not been replaced. -/
theorem becomes (h : page.Develops next) (hNumbered : page.Numbered) {view later : View}
    (hView : page.view = some view) (hLater : next.view = some later)
    (hSerial : later.serial = view.serial) : view.Becomes later := by
  rcases h.view later hLater with ⟨before, hBefore, hBecomes⟩ | ⟨hNew, -⟩
  · rw [hView, Option.some.injEq] at hBefore
    subst hBefore
    exact hBecomes
  · have hOld := hNumbered view hView
    omega

/-- In between, it was not replaced either. -/
theorem serial?_eq (left : page.Develops middle) (right : middle.Develops next)
    (hNumbered : page.Numbered) (hSame : next.serial? = page.serial?) :
    middle.serial? = page.serial? := by
  cases hView : page.view with
  | none =>
      have hNext : next.view = none := by
        rw [serial?, serial?, hView, Option.map_none, Option.map_eq_none_iff] at hSame
        exact hSame
      have hMiddle : middle.view = none := by
        rw [← Option.not_isSome_iff_eq_none]
        intro hSome
        have hLater := right.stays hSome
        rw [hNext] at hLater
        cases hLater
      rw [serial?, serial?, hView, hMiddle]
  | some view =>
      obtain ⟨between, hBetween⟩ := Option.isSome_iff_exists.mp (left.stays (by rw [hView]; rfl))
      obtain ⟨later, hLater⟩ :=
        Option.isSome_iff_exists.mp (right.stays (by rw [hBetween]; rfl))
      have hSerial : later.serial = view.serial := by
        rw [serial?, serial?, hLater, hView] at hSame
        exact Option.some.inj hSame
      have hBefore : between.serial = view.serial := by
        rcases right.view later hLater with ⟨other, hOther, hBecomes⟩ | ⟨hNew, -⟩
        · rw [hBetween, Option.some.injEq] at hOther
          subst hOther
          exact hBecomes.serial.symm.trans hSerial
        · have hOld := hNumbered view hView
          have hGrows := left.nextSerial
          omega
      rw [serial?, serial?, hBetween, hView, Option.map_some, Option.map_some, hBefore]

end Develops

section Moves

variable {loads : Prop} {page next : Page}

/-- Views come and go by new ones alone. -/
theorem develops_move (hMove : Move loads page next) : page.Develops next := by
  cases hMove with
  | report | cancel | invoke | setRange => exact .of_eq rfl rfl
  | @ask view hView order call =>
      refine ⟨Nat.le_refl _, fun _ => rfl, ?_⟩
      rintro later ⟨⟩
      exact Or.inl ⟨view, hView, .issue view order call page.session⟩
  | @adjust view changed hView hAdjusts =>
      refine ⟨Nat.le_refl _, fun _ => rfl, ?_⟩
      rintro later ⟨⟩
      exact Or.inl ⟨view, hView, .adjusts hAdjusts⟩
  | newView tableId =>
      have hSerial := page.nextSerial_newView tableId
      refine ⟨hSerial ▸ Nat.le_succ _, fun _ => rfl, ?_⟩
      rintro later ⟨⟩
      exact Or.inr ⟨Nat.le_refl _, hSerial ▸ Nat.lt_succ_self _⟩

theorem develops_moves (hMoves : Moves loads page next) : page.Develops next := by
  induction hMoves with
  | refl => exact .refl page
  | tail _ hMove ih => exact ih.trans (develops_move hMove)

theorem develops_onCompleted (observer : Observer) (page : Page) :
    page.Develops (observer.onCompleted page) := by
  rcases observer.renders_or with ⟨serial, generation, rfl⟩ | hOther
  · rw [Observer.onCompleted_renderer]
    exact .map rfl (.conclude _) rfl
  · exact develops_moves (moves_onCompleted hOther)

/-- The handling of a reply changes the view, or an observer makes a new one. -/
theorem develops_turn (h : page.session.Balanced) (hTurn : Turn page next) : page.Develops next := by
  cases hTurn with
  | idle => exact .refl page
  | unknown => exact .of_eq rfl rfl
  | @accepted id result pending done payload hQueue hPending hDecodes =>
      exact .map (view_resume _ _ _ _ _ _) (.display pending.receiver.observer payload)
        (nextSerial_resume _ _ _ _ _ _)
  | @ended frame pending error hQueue hPending hEnds =>
      rw [finish_eq_onCompleted h hPending]
      have hConcluded : page.Develops (page.concluded frame.requestId pending.receiver error) :=
        .of_eq rfl rfl
      exact hConcluded.trans (develops_onCompleted pending.receiver.observer _)

/-- No operation takes the view away or gives an old number to a new one. -/
theorem develops_step (h : page.session.Balanced) {operation : Operation}
    (hOrdinary : operation.IsOrdinary) : page.Develops (page.step operation) := by
  rcases operation.handles_or with rfl | ⟨frame, rfl⟩ | ⟨hOther, hHandling⟩
  · exact develops_turn h (turn_of_balanced h)
  · exact .of_eq rfl rfl
  · exact develops_moves (moves_step hOrdinary hOther hHandling)

/-- A view that is left does not come back in any run. -/
theorem develops_run (h : page.session.Balanced) {operations : List Operation}
    (hOrdinary : ∀ operation ∈ operations, operation.IsOrdinary) :
    page.Develops (page.run operations) := by
  refine run_keeps (motive := page.Develops) ?_ h (.refl page)
  intro operation hOperation middle hMiddle hBefore
  exact hBefore.trans (develops_step hMiddle (hOrdinary operation hOperation))

end Moves

theorem numbered_opened (accepts : Nat → Bool) : (opened accepts).Numbered := by
  rintro view ⟨⟩

/-- In every run, new views have numbers that no view before had. -/
theorem numbered_run (accepts : Nat → Bool) {operations : List Operation}
    (hOrdinary : ∀ operation ∈ operations, operation.IsOrdinary) :
    ((opened accepts).run operations).Numbered :=
  (develops_run (.fresh accepts) hOrdinary).numbered (numbered_opened accepts)

section Opened

variable {accepts : Nat → Bool} {first second third : List Operation}

/-- The later part of a run develops the page of the earlier part. -/
theorem develops_opened_run (hOrdinary : ∀ operation ∈ first ++ second, operation.IsOrdinary) :
    ((opened accepts).run first).Develops ((opened accepts).run (first ++ second)) := by
  rw [run_append]
  exact develops_run (balanced_run (.fresh accepts) first) fun operation hOperation =>
    hOrdinary operation (List.mem_append_right _ hOperation)

/-- A view that is the current one at the end has been so all the time. -/
theorem serial?_between (hOrdinary : ∀ operation ∈ first ++ (second ++ third), operation.IsOrdinary)
    (hSame : ((opened accepts).run (first ++ (second ++ third))).serial? =
      ((opened accepts).run first).serial?) :
    ((opened accepts).run (first ++ second)).serial? = ((opened accepts).run first).serial? := by
  rw [← List.append_assoc] at hOrdinary hSame
  have hBefore : ∀ operation ∈ first ++ second, operation.IsOrdinary := fun operation hOperation =>
    hOrdinary operation (List.mem_append_left _ hOperation)
  have hNumbered : ((opened accepts).run first).Numbered :=
    numbered_run accepts fun operation hOperation =>
      hBefore operation (List.mem_append_left _ hOperation)
  exact (develops_opened_run hBefore).serial?_eq (develops_opened_run hOrdinary) hNumbered hSame

end Opened

end Page

end RemoteTable
