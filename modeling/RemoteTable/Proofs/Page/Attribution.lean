import Mathlib.Data.List.Induction
import RemoteTable.Proofs.Page.Balance
import RemoteTable.Proofs.Page.Moves
import RemoteTable.Proofs.Session.Awaiting
import RemoteTable.Proofs.Table.Attribution

/-! Displayed values stand under the columns they were asked for in. What is known of the view and of
the requests that wait is kept in every step of a page. -/

namespace RemoteTable.Page

/-- The first waiting reply brings a snapshot to a renderer of a view. -/
def Brings (page : Page) (serial id : Nat) (data : Snapshot) : Prop :=
  ∃ result pending generation done, page.session.queue.head? = some ⟨id, .next result⟩ ∧
    page.session.pending? id = some pending ∧
    pending.receiver.observer = .renderer serial generation ∧
    pending.receiver.observer.decode result = .ok (done, .snapshot data)

/-- What is known of the current view, and that later views have numbers of their own. -/
structure Attributed (told : Nat → Nat → Snapshot → Prop) (page : Page) : Prop where
  older : page.session.Older page.nextSerial
  view : ∀ view, page.view = some view → view.Attributed told page.nextSerial page.session

namespace Attributed

variable {told : Nat → Nat → Snapshot → Prop} {loads : Prop} {page next : Page}

/-- What is known holds as well when more snapshots count as told. -/
theorem mono (h : page.Attributed told) {told' : Nat → Nat → Snapshot → Prop}
    (hTold : ∀ serial id data, told serial id data → told' serial id data) :
    page.Attributed told' :=
  ⟨h.older, fun view hView => (h.view view hView).mono hTold⟩

/-- A change of the view that is right for the session before is right for one that inherits from
it. -/
theorem modify (h : page.Attributed told) (hInherits : page.session.Inherits next.session)
    (hSerial : next.nextSerial = page.nextSerial) {change : View → View}
    (hView : next.view = page.view.map change)
    (hChange : ∀ view, view.Attributed told page.nextSerial page.session →
      (change view).Attributed told page.nextSerial page.session) :
    next.Attributed told := by
  refine ⟨hSerial ▸ h.older.inherit hInherits, fun changed hChanged => ?_⟩
  rw [hView, Option.map_eq_some_iff] at hChanged
  obtain ⟨view, hBefore, rfl⟩ := hChanged
  exact hSerial ▸ (hChange view (h.view view hBefore)).inherit hInherits

theorem inherit (h : page.Attributed told) (hInherits : page.session.Inherits next.session)
    (hSerial : next.nextSerial = page.nextSerial) (hView : next.view = page.view) :
    next.Attributed told :=
  h.modify hInherits hSerial (hView.trans Option.map_id_apply.symm) fun _ hView => hView

/-- Giving up requests and reporting errors concern neither the view nor its renderers. -/
theorem of_quiet (h : page.Attributed told) (hQuiet : page.session.Quiet next.session)
    (hSerial : next.nextSerial = page.nextSerial) (hView : next.view = page.view) :
    next.Attributed told :=
  h.inherit (.of_quiet hQuiet) hSerial hView

/-- A request of an observer that is no renderer. -/
theorem invoke (h : page.Attributed told) (call : Call) {observer : Observer}
    (hObserver : ∀ serial generation, observer ≠ .renderer serial generation) :
    (page.invoke call observer).2.Attributed told :=
  h.inherit (.invoke page.session call hObserver) rfl rfl

/-- A new view has asked for nothing yet, so there is nothing to be attributed. -/
theorem newView (h : page.Attributed told) (tableId : ObjectId) :
    (page.newView tableId).Attributed told := by
  have hInherits : page.session.Inherits (page.newView tableId).session :=
    .of_quiet (page.quiet_newView tableId).session
  have hSerial := page.nextSerial_newView tableId
  have hNew : (View.new tableId page.nextSerial).Attributed told (page.nextSerial + 1)
      (page.newView tableId).session := .new tableId (h.older.inherit hInherits)
  refine ⟨hSerial ▸ hNew.older, fun view hView => ?_⟩
  cases hView
  exact hSerial ▸ hNew

theorem move (h : page.Attributed told) (hMove : Move loads page next) : next.Attributed told := by
  cases hMove with
  | report message => exact h.of_quiet (.report .refl message) rfl rfl
  | cancel id => exact h.of_quiet (.cancel .refl id) rfl rfl
  | invoke call hObserver => exact h.invoke call hObserver
  | ask hView hCall =>
      have hAsking := (h.view _ hView).issue hCall
      refine ⟨hAsking.older, fun other hOther => ?_⟩
      cases hOther
      exact hAsking
  | adjust hView hAdjusts =>
      refine ⟨h.older, fun other hOther => ?_⟩
      cases hOther
      exact (h.view _ hView).adjusts hAdjusts
  | newView tableId => exact h.newView tableId
  | setRange range => exact ⟨h.older, h.view⟩

/-- What is known of the view is kept by all that the user and the observers do. -/
theorem moves (h : page.Attributed told) (hMoves : Moves loads page next) : next.Attributed told := by
  induction hMoves with
  | refl => exact h
  | tail _ hMove ih => exact ih.move hMove

/-- It is kept at the end of a request as well, renderers included. -/
theorem onCompleted (h : page.Attributed told) (observer : Observer) :
    (observer.onCompleted page).Attributed told := by
  rcases observer.renders_or with ⟨serial, generation, rfl⟩ | hOther
  · refine h.modify (.of_quiet .refl) rfl rfl fun view hView => ?_
    dsimp only
    split
    · exact hView.requestFinished generation
    · exact hView
  · exact h.moves (moves_onCompleted hOther)

/-- An operation of the user, or a reply that comes in. -/
theorem step_of_ne (h : page.Attributed told) {operation : Operation}
    (hOrdinary : operation.IsOrdinary) (hHandling : operation ≠ .handleNext) :
    (page.step operation).Attributed told := by
  rcases operation.handles_or with hSame | ⟨frame, rfl⟩ | ⟨hOther, -⟩
  · exact absurd hSame hHandling
  · exact h.inherit (.of_eq rfl List.prefix_rfl (List.Subset.refl _)) rfl rfl
  · exact h.moves (moves_step hOrdinary hOther hHandling)

/-- A receiver that takes a value is entered again as what it was. -/
theorem inherits_accept {id : Nat} {pending : Pending} (done : Option Double) (payload : Payload)
    (hPending : page.session.pending? id = some pending) :
    page.session.Inherits (resume pending.objectId id
      (pending.receiver.accept done payload (page.popped.withdrawn id))).session := by
  have hPopped : page.session.Inherits page.popped.session :=
    .of_eq rfl List.prefix_rfl (List.Subset.refl _)
  have hKnown : page.popped.session.pending? id = some pending := hPending
  have hEntered : page.session.Inherits ((page.popped.session.unregister id).register id
      ⟨pending.objectId,
        { pending.receiver with observer := pending.receiver.observer.collect payload }⟩) :=
    hPopped.trans (.register hKnown fun _ _ => Observer.collect_eq_renderer_iff.mp)
  rw [session_resume]
  cases done <;> exact ⟨hEntered.sent, hEntered.renderers⟩

theorem concluded (h : page.Attributed told) (id : Nat) (receiver : Receiver)
    (error : Option String) : (page.concluded id receiver error).Attributed told :=
  h.inherit (.of_eq rfl List.prefix_rfl fun _ hLeft => List.mem_of_mem_eraseP hLeft) rfl rfl

/-- The handling of a reply. A snapshot is shown only if it is brought to the newest renderer of the
view. -/
theorem turn (h : page.Attributed told) (hBalanced : page.session.Balanced)
    (hTurn : Turn page next)
    (hBrings : ∀ serial id data, page.Brings serial id data → told serial id data) :
    next.Attributed told := by
  cases hTurn with
  | idle => exact h
  | unknown => exact h.inherit (.of_eq rfl List.prefix_rfl (List.Subset.refl _)) rfl rfl
  | @accepted id result pending done payload hQueue hPending hDecodes =>
      have hEntry := Session.mem_of_pending? hPending
      have hInherits := inherits_accept done payload hPending
      rcases pending.receiver.observer.onNext_cases _ payload with
        hSame | ⟨serial, generation, data, hObserver, rfl, hChanged⟩
      · refine h.inherit hInherits ?_ ?_ <;> rw [resume, Receiver.snd_accept, hSame] <;> rfl
      · have hView : (resume pending.objectId id (pending.receiver.accept done (.snapshot data)
            (page.popped.withdrawn id))).view = page.view.map fun view =>
              if view.serial = serial then view.acceptSnapshot generation data else view := by
          rw [resume, Receiver.snd_accept, hChanged]
          rfl
        refine h.modify hInherits ?_ hView fun view hBefore => ?_
        · rw [resume, Receiver.snd_accept, hChanged]
          rfl
        · split
          · rename_i hOwn
            subst hOwn
            exact hBefore.acceptSnapshot (hBefore.renderers _ hEntry generation hObserver).2
              (hBrings _ _ _ ⟨result, pending, generation, done, hQueue, hPending, hObserver,
                hDecodes⟩)
          · exact hBefore
  | @ended frame pending error hQueue hPending hEnds =>
      rw [finish_eq_onCompleted hBalanced hPending]
      exact (h.concluded frame.requestId pending.receiver error).onCompleted pending.receiver.observer

end Attributed

/-- In a run, this snapshot was brought to a renderer of a view. -/
def Told (start : Page) (operations : List Operation) (serial id : Nat) (data : Snapshot) : Prop :=
  ∃ before after, operations = before ++ .handleNext :: after ∧
    (start.run before).Brings serial id data

/-- Whatever has been told in a run has been told in each longer run. -/
theorem Told.concat {start : Page} {operations : List Operation} {serial id : Nat}
    {data : Snapshot} (h : start.Told operations serial id data) (operation : Operation) :
    start.Told (operations ++ [operation]) serial id data := by
  obtain ⟨before, after, rfl, hBrings⟩ := h
  exact ⟨before, after ++ [operation], by simp, hBrings⟩

theorem attributed_opened (accepts : Nat → Bool) {told : Nat → Nat → Snapshot → Prop} :
    (opened accepts).Attributed told :=
  ⟨fun _ hEntry => absurd hEntry List.not_mem_nil, fun _ hView => nomatch hView⟩

/-- In every run, what is shown of the current view is attributed to what its renderers have been
told. -/
theorem attributed_run (accepts : Nat → Bool) (operations : List Operation)
    (hOrdinary : ∀ operation ∈ operations, operation.IsOrdinary) :
    ((opened accepts).run operations).Attributed ((opened accepts).Told operations) := by
  induction operations using List.reverseRecOn with
  | nil => exact attributed_opened accepts
  | append_singleton operations operation ih =>
      have hBefore := (ih fun other hOther =>
        hOrdinary other (List.mem_append_left _ hOther)).mono fun _ _ _ hTold =>
          hTold.concat operation
      rw [run_concat]
      by_cases hHandling : operation = .handleNext
      · subst hHandling
        have hStart : (opened accepts).session.Balanced := .fresh accepts
        have hBalanced := balanced_run hStart operations
        exact hBefore.turn hBalanced (turn_of_balanced hBalanced) fun serial id data hBrings =>
          ⟨operations, [], rfl, hBrings⟩
      · exact hBefore.step_of_ne
          (hOrdinary operation (List.mem_append_right _ (List.mem_singleton_self _))) hHandling

/-- Displayed values always stand under the columns they were asked for in. In every run of the
operations of the user, over any transport and with any replies, a snapshot that the current view
shows was brought by a reply to a request of this very view, and the order of the snapshot is the one
that this request was sent with. If the columns are known, every value stands under its column in
this order, and the header shows this order. -/
theorem snapshot_stands_under_request (accepts : Nat → Bool) (operations : List Operation)
    (hOrdinary : ∀ operation ∈ operations, operation.IsOrdinary) (view : View) (data : Snapshot)
    (hView : ((opened accepts).run operations).view = some view)
    (hSnapshot : view.snapshot = some data) :
    (∃ id before after, operations = before ++ .handleNext :: after ∧
      ((opened accepts).run before).Brings view.serial id data ∧
      ((opened accepts).run operations).session.Asked id view.tableId view.snapshotOrder) ∧
    ∀ schema, view.schema = some schema →
      view.rendering.Places schema view.snapshotOrder data := by
  have hKnown := (attributed_run accepts operations hOrdinary).view view hView
  obtain ⟨id, hAsked, before, after, hSplit, hBrings⟩ := hKnown.shown data hSnapshot
  exact ⟨⟨id, before, after, hSplit, hBrings, hAsked⟩,
    fun schema hSchema => hKnown.settled.places hSnapshot hSchema⟩

/-- A column is shown, its rows arrive, and then another order is asked for and the old rows are
shown once more. -/
theorem snapshot_stands_while_order_in_flight :
    let column : Json := .object [("kind", .string "Integer"), ("name", .string "A"),
      ("allowMissing", .bool false)]
    let known : Json := .object [("done", .int 1), ("data", .object [("schema", .array [column]),
      ("rowCount", .int 1)])]
    let rows : Json := .object [("done", .int 1), ("data", .object [("rowCount", .int 1),
      ("rows", .array [.object [("count", .int 1), ("values", .array [.int 7])]])])]
    let operations : List Operation := [.showTable ⟨"t"⟩, .receive ⟨1, .next known⟩, .handleNext,
      .showColumn "A" .ascending, .receive ⟨2, .next rows⟩, .handleNext, .noRows, .refresh]
    let final := (opened fun _ => true).run operations
    (∀ operation ∈ operations, operation.IsOrdinary) ∧
      ∃ view data, final.view = some view ∧ view.snapshot = some data ∧
        (∃ id before after, operations = before ++ .handleNext :: after ∧
          ((opened fun _ => true).run before).Brings view.serial id data ∧
          final.session.Asked id view.tableId view.snapshotOrder) ∧
        ∀ schema, view.schema = some schema →
          view.rendering.Places schema view.snapshotOrder data := by
  intro column known rows operations final
  have hOrdinary : ∀ operation ∈ operations, operation.IsOrdinary := by
    simp [operations, Operation.IsOrdinary]
  refine ⟨hOrdinary, _, _, rfl, rfl, ?_⟩
  exact snapshot_stands_under_request _ operations hOrdinary _ _ rfl rfl

end RemoteTable.Page
