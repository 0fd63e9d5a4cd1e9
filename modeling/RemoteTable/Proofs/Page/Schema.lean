import Mathlib.Data.List.Induction
import RemoteTable.Proofs.Page.Feeding
import RemoteTable.Proofs.Page.Succession
import RemoteTable.Proofs.Page.Views

/-! Where the columns of the current view come from. The first snapshot with a schema that the view takes
tells them, and nothing else does. -/

namespace RemoteTable

/-- Drawing a snapshot again brings no other columns. -/
theorem View.Drawn.schema_eq {view : View} (h : view.Drawn) {data : Snapshot}
    (hSnapshot : view.snapshot = some data) : (view.update data).schema = view.schema := by
  rw [h.settled data hSnapshot]

namespace Page

/-- The snapshot that the current view takes when the first waiting reply is handled. -/
def taken? (page : Page) : Option Snapshot := do
  let view ← page.view
  let frame ← page.session.queue.head?
  let pending ← page.session.pending? frame.requestId
  if pending.receiver.observer = .renderer view.serial view.generation then
    match (pending.receiver.react frame.reply).2 with
    | [.next (.snapshot data)] => some data
    | _ => none
  else none

/-- The snapshot that the current view takes in an operation. -/
def takenIn (page : Page) : Operation → Option Snapshot
  | .handleNext => page.taken?
  | _ => none

/-- The snapshots that the view of a number takes in a run, in order. -/
def taken (page : Page) (serial : Nat) : List Operation → List Snapshot
  | [] => []
  | operation :: rest =>
    (if page.serial? = some serial then page.takenIn operation else none).toList
      ++ (page.step operation).taken serial rest

/-- The view of the later page has its columns from before or else from a snapshot that it has taken. A
new view has none. -/
def Learns (page next : Page) (taken : Option Snapshot) : Prop :=
  ∀ later, next.view = some later →
    (∃ view, page.view = some view ∧ later.serial = view.serial ∧
      later.schema = view.schema.or (taken.bind Snapshot.schema)) ∨
    page.nextSerial ≤ later.serial ∧ later.schema = none

variable {page middle next : Page} {loads : Prop}

/-- A change that keeps the columns teaches the view nothing. -/
theorem Learns.map {change : View → View} (hView : next.view = page.view.map change)
    (hChange : ∀ view : View,
      (change view).serial = view.serial ∧ (change view).schema = view.schema) :
    page.Learns next none := by
  intro later hLater
  rw [hView, Option.map_eq_some_iff] at hLater
  obtain ⟨view, hBefore, rfl⟩ := hLater
  obtain ⟨hSerial, hSchema⟩ := hChange view
  refine Or.inl ⟨view, hBefore, hSerial, ?_⟩
  rw [hSchema, Option.bind_none, Option.or_none]

theorem Learns.of_eq (hView : next.view = page.view) : page.Learns next none :=
  .map (hView.trans Option.map_id_apply.symm) fun _ => ⟨rfl, rfl⟩

/-- Nothing is learned in two steps that teach nothing, even if the view is replaced in between. -/
theorem Learns.trans (hDevelops : page.Develops middle) (left : page.Learns middle none)
    (right : middle.Learns next none) : page.Learns next none := by
  intro later hLater
  rcases right later hLater with ⟨between, hBetween, hSerial, hSchema⟩ | ⟨hNew, hNone⟩
  · rw [Option.bind_none, Option.or_none] at hSchema
    rw [hSerial, hSchema]
    exact left between hBetween
  · exact Or.inr ⟨Nat.le_trans hDevelops.nextSerial hNew, hNone⟩

theorem learns_move (hDrawn : page.Shows View.Drawn) (hMove : Move loads page next) :
    page.Learns next none := by
  cases hMove with
  | report | cancel | invoke | setRange => exact .of_eq rfl
  | @ask view hView order call =>
      rintro later ⟨⟩
      rw [View.issue_eq]
      exact Or.inl ⟨view, hView, rfl, (Option.or_none).symm⟩
  | @adjust view changed hView hAdjusts =>
      rintro later ⟨⟩
      refine Or.inl ⟨view, hView, (View.Becomes.adjusts hAdjusts).serial, ?_⟩
      rw [Option.bind_none, Option.or_none]
      cases hAdjusts with
      | previous => rfl
      | next =>
          unfold View.selectNext
          split <;> rfl
      | again hSnapshot => exact (hDrawn view hView).schema_eq hSnapshot
  | newView tableId =>
      rintro later ⟨⟩
      exact Or.inr ⟨Nat.le_refl _, rfl⟩

/-- The user and the observers teach the view no columns. -/
theorem learns_moves (hDrawn : page.Shows View.Drawn) (hMoves : Moves loads page next) :
    page.Learns next none := by
  induction hMoves with
  | refl => exact .of_eq rfl
  | tail hBefore hMove ih =>
      have hStill := shows_moves View.invariant_drawn hDrawn hBefore
      exact ih.trans (develops_moves hBefore) (learns_move hStill hMove)

theorem learns_onCompleted (hDrawn : page.Shows View.Drawn) (observer : Observer) :
    page.Learns (observer.onCompleted page) none := by
  rcases observer.renders_or with ⟨serial, generation, rfl⟩ | hOther
  · rw [Observer.onCompleted_renderer]
    refine .map rfl fun view => ⟨(View.Becomes.conclude _ view).serial, ?_⟩
    unfold Observer.conclude View.requestFinished
    repeat' split
    all_goals rfl
  · exact learns_moves hDrawn (moves_onCompleted hOther)

/-- Only a snapshot for the newest renderer of the view is taken. -/
theorem learns_accepted (h : page.session.Balanced) {id : Nat} {result : Json} {pending : Pending}
    {done : Option Double} {payload : Payload}
    (hQueue : page.session.queue.head? = some ⟨id, .next result⟩)
    (hPending : page.session.pending? id = some pending)
    (hDecodes : pending.receiver.observer.decode result = .ok (done, payload)) :
    page.Learns (resume pending.objectId id
      (pending.receiver.accept done payload (page.popped.withdrawn id))) page.taken? := by
  intro later hLater
  have hActive := (h.waiting hPending).1
  have hShown := view_resume (page.popped.withdrawn id) pending.objectId id pending.receiver done payload
  rw [hShown] at hLater
  obtain ⟨view, hView, rfl⟩ := Option.map_eq_some_iff.mp hLater
  have hBefore : page.view = some view := hView
  refine Or.inl ⟨view, hBefore, (View.Becomes.display _ payload view).serial, ?_⟩
  by_cases hNewest : pending.receiver.observer = .renderer view.serial view.generation
  · have hReact := Receiver.react_of_decodes hActive hDecodes
    cases payload with
    | snapshot data =>
        simp [taken?, hBefore, hQueue, hPending, hNewest, hReact, Observer.display,
          View.acceptSnapshot]
    | _ => simp [taken?, hBefore, hQueue, hPending, hNewest, hReact, Observer.display]
  · rw [Observer.display_of_ne hNewest]
    simp [taken?, hBefore, hQueue, hPending, hNewest]

/-- The handling of a reply teaches the view the columns of the snapshot that it takes, if there are
none yet. -/
theorem learns_turn (h : page.session.Balanced) (hDrawn : page.Shows View.Drawn)
    (hTurn : Turn page next) : page.Learns next page.taken? := by
  cases hTurn with
  | idle hEmpty =>
      have hNone : page.taken? = none := by simp [taken?, hEmpty]
      rw [hNone]
      exact .of_eq rfl
  | unknown hQueue hUnknown =>
      have hNone : page.taken? = none := by simp [taken?, hQueue, hUnknown]
      rw [hNone]
      exact .of_eq rfl
  | accepted hQueue hPending hDecodes => exact learns_accepted h hQueue hPending hDecodes
  | @ended frame pending error hQueue hPending hEnds =>
      have hReact := Receiver.react_of_ends (h.waiting hPending).1 hEnds
      have hNone : page.taken? = none := by simp [taken?, hQueue, hPending, hReact]
      have hConcluded : (page.concluded frame.requestId pending.receiver error).Shows View.Drawn :=
        hDrawn.of_eq rfl
      rw [finish_eq_onCompleted h hPending, hNone]
      exact learns_onCompleted hConcluded pending.receiver.observer

/-- An operation teaches the view only what it takes in it. -/
theorem learns_step (h : page.session.Balanced) (hDrawn : page.Shows View.Drawn)
    {operation : Operation} (hOrdinary : operation.IsOrdinary) :
    page.Learns (page.step operation) (page.takenIn operation) := by
  rcases operation.handles_or with rfl | ⟨frame, rfl⟩ | ⟨hOther, hHandling⟩
  · exact learns_turn h hDrawn (turn_of_balanced h)
  · exact .of_eq rfl
  · have hNone : page.takenIn operation = none := by
      cases operation with
      | handleNext => exact absurd rfl hHandling
      | _ => rfl
    rw [hNone]
    exact learns_moves hDrawn (moves_step hOrdinary hOther hHandling)

/-- The snapshots that a view takes in a longer run are those of its parts. -/
theorem taken_append (page : Page) (serial : Nat) (first second : List Operation) :
    page.taken serial (first ++ second) =
      page.taken serial first ++ (page.run first).taken serial second := by
  induction first generalizing page with
  | nil => rfl
  | cons operation rest ih => rw [List.cons_append, taken, ih, taken, List.append_assoc, run_cons]

/-- A view takes nothing before it is there. -/
theorem taken_of_le (h : page.session.Balanced) (hNumbered : page.Numbered)
    {operations : List Operation} (hOrdinary : ∀ operation ∈ operations, operation.IsOrdinary)
    {serial : Nat} (hNew : (page.run operations).nextSerial ≤ serial) :
    page.taken serial operations = [] := by
  induction operations generalizing page with
  | nil => rfl
  | cons operation rest ih =>
      obtain ⟨hFirst, hRest⟩ := List.forall_mem_cons.mp hOrdinary
      have hDevelops := develops_step h hFirst
      have hLater := (develops_run (balanced_step h operation) hRest).nextSerial
      have hOther : page.serial? ≠ some serial := by
        intro hSame
        obtain ⟨view, hView, rfl⟩ := Option.map_eq_some_iff.mp hSame
        have hOld := hNumbered view hView
        have hGrows := hDevelops.nextSerial
        rw [run_cons] at hNew
        omega
      rw [taken, if_neg hOther, ih (balanced_step h operation) (hDevelops.numbered hNumbered) hRest hNew]
      rfl

/-- In every run, the columns of the current view are those of the first snapshot with columns that
it has taken. -/
theorem schema_run (accepts : Nat → Bool) {operations : List Operation}
    (hOrdinary : ∀ operation ∈ operations, operation.IsOrdinary) :
    ((opened accepts).run operations).Shows fun view =>
      view.schema = ((opened accepts).taken view.serial operations).findSome? Snapshot.schema := by
  induction operations using List.reverseRecOn with
  | nil => rintro view ⟨⟩
  | append_singleton operations operation ih =>
      have hBefore := fun other hOther => hOrdinary other (List.mem_append_left _ hOther)
      have hStart : (opened accepts).session.Balanced := .fresh accepts
      have hNow := hOrdinary operation (List.mem_append_right _ (List.mem_singleton_self _))
      have hDrawn : ((opened accepts).run operations).Shows View.Drawn :=
        shows_opened_run View.invariant_drawn accepts hBefore
      have hNumbered := numbered_run accepts hBefore
      intro later hLater
      rw [run_concat] at hLater
      rw [taken_append, List.findSome?_append]
      rcases learns_step (balanced_run hStart operations) hDrawn hNow later hLater with
        ⟨view, hView, hSerial, hSchema⟩ | ⟨hNew, hNone⟩
      · have hCurrent : ((opened accepts).run operations).serial? = some later.serial := by
          rw [serial?, hView, Option.map_some, hSerial]
        rw [hSchema, ih hBefore view hView, hSerial.symm, taken, if_pos hCurrent]
        cases ((opened accepts).run operations).takenIn operation <;> simp [taken]
      · have hOther : ((opened accepts).run operations).serial? ≠ some later.serial := by
          intro hSame
          obtain ⟨view, hView, hSerial⟩ := Option.map_eq_some_iff.mp hSame
          have hOld := hNumbered view hView
          omega
        rw [hNone, taken_of_le hStart (numbered_opened accepts) hBefore hNew, taken, if_neg hOther]
        rfl

end Page

end RemoteTable
