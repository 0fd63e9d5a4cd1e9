import RemoteTable.Proofs.Page.Attribution
import RemoteTable.Proofs.Page.Draining

/-! At most one request for rows is in flight, and no other one is left behind. The request in flight
of the current view is the only one of the newest generation that waits, and each former one has a
terminal reply in the queue: the view gives up the request in flight whenever it asks again or is
replaced. -/

namespace RemoteTable

namespace View

/-- What tells the requests of a view from each other. -/
def lead (view : View) : Nat × Nat × Option RequestHandle :=
  (view.serial, view.generation, view.inFlight)

theorem Adjusts.lead_eq {view changed : View} (h : view.Adjusts changed) :
    changed.lead = view.lead := by
  cases h with
  | previous => rfl
  | next =>
      unfold selectNext
      split <;> rfl
  | again => simp [lead]

/-- Rows that come in do not end the request for them. -/
theorem lead_acceptSnapshot (view : View) (generation : Nat) (data : Snapshot) :
    (view.acceptSnapshot generation data).lead = view.lead := by
  unfold acceptSnapshot
  split <;> simp [lead]

/-- The request in flight is the one that waits for rows of the newest generation. -/
def Leads (session : Session) (view : View) : Prop :=
  ∀ handle, view.inFlight = some handle ↔ session.Awaits handle view.serial view.generation

namespace Leads

variable {session other : Session} {view changed : View}

/-- That the view is led depends on its numbers and on who waits for its newest rows. -/
theorem congr (h : view.Leads session) (hLead : changed.lead = view.lead)
    (hAwaits : ∀ handle, other.Awaits handle view.serial view.generation ↔
      session.Awaits handle view.serial view.generation) : changed.Leads other := by
  simp only [lead, Prod.mk.injEq] at hLead
  obtain ⟨hSerial, hGeneration, hInFlight⟩ := hLead
  intro handle
  rw [hInFlight, hSerial, hGeneration, hAwaits]
  exact h handle

/-- Nothing has been asked for a new view. -/
theorem new (tableId : ObjectId) {serial : Nat} (hOlder : session.Older serial) :
    (View.new tableId serial).Leads session := by
  intro handle
  constructor
  · intro hInFlight
    cases hInFlight
  · rintro ⟨receiver, hPending, hObserver⟩
    have hBelow := hOlder _ (Session.mem_of_pending? hPending) _ _ hObserver
    exact absurd hBelow (Nat.lt_irrefl serial)

/-- Requests of former generations do not count when the next one is asked for. -/
theorem issue (hBalanced : session.Balanced)
    (hNewest : ∀ handle generation, session.Awaits handle view.serial generation →
      generation ≤ view.generation) (call : Call) :
    (view.issue call session).1.Leads (view.issue call session).2 := by
  have hQuiet := view.quiet_cancelInFlight session
  have hNew := (hBalanced.quiet hQuiet).pending?_next
  rw [issue_eq]
  intro handle
  dsimp only
  rw [Session.awaits_invoke hNew, Session.awaits_of_pending_eq hQuiet.pending_eq]
  constructor
  · intro hHandle
    cases hHandle
    exact Or.inr ⟨rfl, rfl⟩
  · rintro (hOld | ⟨rfl, -⟩)
    · exact absurd (hNewest _ _ hOld) (Nat.not_succ_le_self _)
    · rfl

/-- The newest request is given up with the request in flight. -/
theorem ending (h : view.Leads session) {handle : RequestHandle}
    (hAwaits : session.Awaits handle view.serial view.generation) :
    (view.cancelInFlight session).2.Ending handle.requestId := by
  have hInFlight := (h handle).mpr hAwaits
  simp only [cancelInFlight, hInFlight]
  exact Session.ending_cancel hAwaits.isSome

/-- When a request has ended, the view is led as before if this was another request. -/
theorem unregister (h : view.Leads session) (hKeys : (session.pending.map Prod.fst).Nodup) {id : Nat}
    {pending : Pending} (hPending : session.pending? id = some pending)
    (hOther : pending.receiver.observer ≠ .renderer view.serial view.generation) :
    view.Leads (session.unregister id) := by
  refine h.congr rfl fun handle => ?_
  rw [Session.awaits_unregister hKeys]
  refine and_iff_left_of_imp fun hAwaits hId => ?_
  exact hOther (hAwaits.observer_eq (hId ▸ hPending)).2

/-- Nothing waits for the newest generation when its request has ended. -/
theorem ended (h : view.Leads session) (hKeys : (session.pending.map Prod.fst).Nodup) {id : Nat}
    {pending : Pending} (hPending : session.pending? id = some pending)
    (hObserver : pending.receiver.observer = .renderer view.serial view.generation) :
    { view with inFlight := none }.Leads (session.unregister id) := by
  have hOwn := (h ⟨id, pending.objectId⟩).mpr ⟨pending.receiver, hPending, hObserver⟩
  intro handle
  show none = some handle ↔ (session.unregister id).Awaits handle view.serial view.generation
  rw [Session.awaits_unregister hKeys, ← h handle, hOwn, Option.some.injEq]
  constructor
  · intro hNone
    cases hNone
  · rintro ⟨rfl, hOther⟩
    exact absurd rfl hOther

end Leads

end View

namespace Observer

theorem lead_display (observer : Observer) (payload : Payload) (view : View) :
    (observer.display payload view).lead = view.lead := by
  unfold display
  split
  · split
    · exact view.lead_acceptSnapshot _ _
    · rfl
  · rfl

theorem generation_conclude (observer : Observer) (view : View) :
    (observer.conclude view).serial = view.serial ∧
      (observer.conclude view).generation = view.generation := by
  unfold conclude View.requestFinished
  repeat' split
  all_goals exact ⟨rfl, rfl⟩

end Observer

namespace Page

/-- The current view asks for the rows of this generation. -/
def IsNewest (page : Page) (serial generation : Nat) : Prop :=
  ∃ view, page.view = some view ∧ view.serial = serial ∧ view.generation = generation

/-- The current view has the request of this handle in flight. -/
def InFlight (page : Page) (handle : RequestHandle) : Prop :=
  ∃ view, page.view = some view ∧ view.inFlight = some handle

/-- The current view is led by the request it has in flight. The queue has no part in this. -/
structure Led (page : Page) : Prop where
  balanced : page.session.Balanced
  attributed : page.Attributed fun _ _ _ => True
  leads : ∀ view, page.view = some view → view.Leads page.session

/-- Every request for rows of a former generation or of a former view is about to end. -/
def Superseding (page : Page) : Prop :=
  ∀ handle serial generation, page.session.Awaits handle serial generation →
    page.IsNewest serial generation ∨ page.session.Ending handle.requestId

variable {page next : Page}

section Move

variable {loads : Prop}

/-- No renderer of the view is ahead of it. -/
theorem newest_of_attributed {told : Nat → Nat → Snapshot → Prop} (h : page.Attributed told)
    {view : View} (hView : page.view = some view) {handle : RequestHandle} {generation : Nat}
    (hAwaits : page.session.Awaits handle view.serial generation) :
    generation ≤ view.generation := by
  obtain ⟨receiver, hPending, hObserver⟩ := hAwaits
  exact ((h.view view hView).renderers _ (Session.mem_of_pending? hPending) _ hObserver).1

/-- Each move that asks for rows notes the new request as the one in flight, and each that gives it
up notes that too. -/
theorem leads_move (h : page.Led) (hMove : Move loads page next) {view : View}
    (hView : next.view = some view) : view.Leads next.session := by
  cases hMove with
  | report | setRange => exact h.leads view hView
  | cancel id =>
      refine (h.leads view hView).congr rfl fun handle => ?_
      exact Session.awaits_of_pending_eq (Session.pending_cancel _ _)
  | @invoke call observer hObserver =>
      refine (h.leads view hView).congr rfl fun handle => ?_
      refine (Session.awaits_invoke h.balanced.pending?_next).trans (or_iff_left ?_)
      rintro ⟨-, hRenderer⟩
      exact hObserver _ _ hRenderer
  | ask hBefore hCall =>
      cases hView
      refine View.Leads.issue h.balanced ?_ _
      intro handle generation hAwaits
      exact newest_of_attributed h.attributed hBefore hAwaits
  | adjust hBefore hAdjusts =>
      cases hView
      exact (h.leads _ hBefore).congr hAdjusts.lead_eq fun _ => Iff.rfl
  | newView tableId =>
      cases hView
      exact .new tableId (h.attributed.older.inherit (.of_quiet (page.quiet_newView tableId).session))

theorem Led.move (h : page.Led) (hMove : Move loads page next) : next.Led where
  balanced := h.balanced.uses hMove.uses
  attributed := h.attributed.move hMove
  leads _ hView := leads_move h hMove hView

/-- The view is led by its request in flight whatever the user and the observers do. -/
theorem Led.moves (h : page.Led) (hMoves : Moves loads page next) : next.Led := by
  induction hMoves with
  | refl => exact h
  | tail _ hMove ih => exact ih.move hMove

/-- Leaving a view gives up what it has in flight. -/
theorem session_newView {view : View} (hView : page.view = some view) (tableId : ObjectId) :
    (page.newView tableId).session = (view.cancelInFlight page.session).2 := by
  simp [newView, setView, withView, hView]

/-- When the view gives up the request in flight, all requests for rows are about to end. -/
theorem Superseding.ending (h : page.Superseding) (hLed : page.Led) {view : View} (asking : View)
    (hView : page.view = some view) (hLead : asking.lead = view.lead) {handle : RequestHandle}
    {serial generation : Nat} (hAwaits : page.session.Awaits handle serial generation) :
    (asking.cancelInFlight page.session).2.Ending handle.requestId := by
  rcases h handle serial generation hAwaits with ⟨newest, hNewest, rfl, rfl⟩ | hEnding
  · rw [hView, Option.some.injEq] at hNewest
    subst hNewest
    have hLeads := (hLed.leads _ hView).congr hLead fun _ => Iff.rfl
    simp only [View.lead, Prod.mk.injEq] at hLead
    rw [← hLead.1, ← hLead.2.1] at hAwaits
    exact hLeads.ending hAwaits
  · exact hEnding.mono (asking.quiet_cancelInFlight page.session).queue_grows.subset

theorem Superseding.move (h : page.Superseding) (hLed : page.Led) (hMove : Move loads page next) :
    next.Superseding := by
  intro handle serial generation hAwaits
  cases hMove with
  | report | setRange => exact h handle serial generation hAwaits
  | cancel id =>
      have hBefore := (Session.awaits_of_pending_eq (Session.pending_cancel page.session id)).mp hAwaits
      refine (h handle serial generation hBefore).imp_right fun hEnding => ?_
      exact hEnding.uses (.quiet (.cancel .refl id))
  | @invoke call observer hObserver =>
      rcases (Session.awaits_invoke hLed.balanced.pending?_next).mp hAwaits with hOld | ⟨-, hNew⟩
      · exact (h handle serial generation hOld).imp_right (·.uses (.issue .refl call observer))
      · exact absurd hNew (hObserver serial generation)
  | @ask view hView order call hCall =>
      have hQuiet := { view with order := order }.quiet_cancelInFlight page.session
      have hNew := (hLed.balanced.quiet hQuiet).pending?_next
      rw [View.issue_eq] at hAwaits ⊢
      rcases (Session.awaits_invoke hNew).mp hAwaits with hOld | ⟨-, hRenderer⟩
      · rw [Session.awaits_of_pending_eq hQuiet.pending_eq] at hOld
        have hEnding := h.ending hLed { view with order := order } hView rfl hOld
        exact Or.inr (hEnding.uses (.issue .refl call _))
      · cases hRenderer
        exact Or.inl ⟨_, rfl, rfl, rfl⟩
  | @adjust view changed hView hAdjusts =>
      refine (h handle serial generation hAwaits).imp_left ?_
      rintro ⟨newest, hNewest, hSame⟩
      rw [hView, Option.some.injEq] at hNewest
      subst hNewest
      have hLead := hAdjusts.lead_eq
      simp only [View.lead, Prod.mk.injEq] at hLead
      exact ⟨changed, rfl, hLead.1.trans hSame.1, hLead.2.1.trans hSame.2⟩
  | newView tableId =>
      rw [Session.awaits_of_pending_eq (page.quiet_newView tableId).session.pending_eq] at hAwaits
      cases hView : page.view with
      | none =>
          rcases h handle serial generation hAwaits with ⟨view, hSome, -⟩ | hEnding
          · rw [hView] at hSome
            cases hSome
          · exact Or.inr (hEnding.uses (.quiet (page.quiet_newView tableId).session))
      | some view =>
          rw [session_newView hView]
          exact Or.inr (h.ending hLed view hView rfl hAwaits)

/-- Requests of former generations and views are given up, whatever the user and the observers do.
-/
theorem Superseding.moves (h : page.Superseding) (hLed : page.Led) (hMoves : Moves loads page next) :
    next.Superseding := by
  induction hMoves with
  | refl => exact h
  | tail hBefore hMove ih => exact ih.move (hLed.moves hBefore) hMove

end Move

section Turn

/-- A change of what the view shows leaves the generations as they are. -/
theorem IsNewest.map {serial generation : Nat} (h : page.IsNewest serial generation)
    {change : View → View} (hView : next.view = page.view.map change)
    (hChange : ∀ view : View,
      (change view).serial = view.serial ∧ (change view).generation = view.generation) :
    next.IsNewest serial generation := by
  obtain ⟨view, hBefore, rfl, rfl⟩ := h
  rw [hBefore, Option.map_some] at hView
  exact ⟨change view, hView, (hChange view).1, (hChange view).2⟩

/-- Rows that are still waited for after a value are those from before. -/
theorem awaits_resume (h : page.session.Balanced) {id : Nat} {pending : Pending}
    (hPending : page.session.pending? id = some pending) (done : Option Double) (payload : Payload)
    {handle : RequestHandle} {serial generation : Nat} :
    (resume pending.objectId id (pending.receiver.accept done payload
      (page.popped.withdrawn id))).session.Awaits handle serial generation ↔
        page.session.Awaits handle serial generation := by
  refine Iff.trans ?_ (Session.awaits_reentered h.keys hPending payload)
  rw [session_resume]
  refine Session.awaits_of_pending_eq ?_
  rw [Session.register, Receiver.pending_progressed]
  rfl

/-- A request that has ended leads the view no longer. If it was not the newest one, the view is led
as before. -/
theorem leads_concluded (h : page.Led) {id : Nat} {pending : Pending}
    (hPending : page.session.pending? id = some pending) (error : Option String) {view : View}
    (hView : page.view = some view) :
    (pending.receiver.observer.conclude view).Leads
      (page.concluded id pending.receiver error).session := by
  have hLeads := h.leads view hView
  have hKeys := h.balanced.keys
  have hUnregistered : (pending.receiver.observer.conclude view).Leads
      (page.session.unregister id) := by
    by_cases hNewest : pending.receiver.observer = .renderer view.serial view.generation
    · rw [hNewest, Observer.conclude_newest]
      exact hLeads.ended hKeys hPending hNewest
    · rw [Observer.conclude_of_ne hNewest]
      exact hLeads.unregister hKeys hPending hNewest
  exact hUnregistered

/-- At the end of a request of another kind, the one in flight stays. -/
theorem Led.concluded (h : page.Led) {id : Nat} {pending : Pending}
    (hPending : page.session.pending? id = some pending)
    (hOther : ∀ serial generation, pending.receiver.observer ≠ .renderer serial generation)
    (error : Option String) : (page.concluded id pending.receiver error).Led where
  balanced := balanced_concluded h.balanced hPending error
  attributed := h.attributed.concluded id pending.receiver error
  leads view hView := by
    have hLeads := leads_concluded h hPending error hView
    rw [Observer.conclude_of_ne (hOther _ _)] at hLeads
    exact hLeads

/-- When the request in flight ends, the view notes it. -/
theorem Led.turn (h : page.Led) (hTurn : Turn page next) : next.Led where
  balanced := balanced_turn h.balanced hTurn
  attributed := h.attributed.turn h.balanced hTurn fun _ _ _ _ => trivial
  leads view hView := by
    cases hTurn with
    | idle | unknown => exact h.leads view hView
    | @accepted id result pending done payload hQueue hPending hDecodes =>
        rw [view_resume, Option.map_eq_some_iff] at hView
        obtain ⟨before, hBefore, rfl⟩ := hView
        exact (h.leads before hBefore).congr (Observer.lead_display _ payload before)
          fun _ => awaits_resume h.balanced hPending done payload
    | @ended frame pending error hQueue hPending hEnds =>
        rw [finish_eq_onCompleted h.balanced hPending] at hView ⊢
        rcases pending.receiver.observer.renders_or with ⟨serial, generation, hObserver⟩ | hOther
        · rw [hObserver, Observer.onCompleted_renderer, ← hObserver] at hView ⊢
          obtain ⟨before, hBefore, rfl⟩ := Option.map_eq_some_iff.mp hView
          exact leads_concluded h hPending error hBefore
        · exact ((h.concluded hPending hOther error).moves (moves_onCompleted hOther)).leads view hView

/-- The reply that is handled ended its own request only: the others of former generations still
have theirs in the queue. -/
theorem Superseding.concluded (h : page.Superseding) (hBalanced : page.session.Balanced)
    {frame : ReplyFrame} (hQueue : page.session.queue.head? = some frame) (receiver : Receiver)
    (error : Option String) : (page.concluded frame.requestId receiver error).Superseding := by
  intro handle serial generation hAwaits
  have hLeft : (page.session.unregister frame.requestId).Awaits handle serial generation := hAwaits
  obtain ⟨hBefore, hOther⟩ := (Session.awaits_unregister hBalanced.keys).mp hLeft
  refine (h handle serial generation hBefore).imp_right fun hEnding => ?_
  exact hEnding.of_head hQueue (fun hSame => absurd hSame.symm hOther) (List.Subset.refl _)

/-- A reply that is handled is about its own request, the ends of the superseded ones stay in the
queue. -/
theorem Superseding.turn (h : page.Superseding) (hLed : page.Led) (hTurn : Turn page next) :
    next.Superseding := by
  intro handle serial generation hAwaits
  cases hTurn with
  | idle => exact h handle serial generation hAwaits
  | @unknown frame hQueue hUnknown =>
      refine (h handle serial generation hAwaits).imp_right fun hEnding => ?_
      refine hEnding.of_head hQueue (fun hSame => ?_) (List.Subset.refl _)
      rw [hSame] at hUnknown
      exact absurd hUnknown (Option.isSome_iff_ne_none.mp hAwaits.isSome)
  | @accepted id result pending done payload hQueue hPending hDecodes =>
      rw [awaits_resume hLed.balanced hPending] at hAwaits
      rcases h handle serial generation hAwaits with hNewest | hEnding
      · refine Or.inl (hNewest.map (view_resume _ _ _ _ done payload) fun view => ?_)
        have hLead := Observer.lead_display pending.receiver.observer payload view
        simp only [View.lead, Prod.mk.injEq] at hLead
        exact ⟨hLead.1, hLead.2.1⟩
      · refine Or.inr (hEnding.of_head hQueue (fun _ hTerminal => hTerminal) ?_)
        exact (queue_turn hLed.balanced (.accepted hQueue hPending hDecodes)).subset
  | @ended frame pending error hQueue hPending hEnds =>
      have hConcluded := h.concluded hLed.balanced hQueue pending.receiver error
      rw [finish_eq_onCompleted hLed.balanced hPending] at hAwaits ⊢
      rcases pending.receiver.observer.renders_or with ⟨_, _, hObserver⟩ | hOther
      · rw [hObserver, Observer.onCompleted_renderer, ← hObserver] at hAwaits ⊢
        refine (hConcluded handle serial generation hAwaits).imp_left fun hNewest => ?_
        exact hNewest.map rfl (Observer.generation_conclude _)
      · exact hConcluded.moves (hLed.concluded hPending hOther error) (moves_onCompleted hOther)
          handle serial generation hAwaits

end Turn

section Run

theorem led_opened (accepts : Nat → Bool) : (opened accepts).Led where
  balanced := .fresh accepts
  attributed := attributed_opened accepts
  leads _ hView := nomatch hView

theorem superseding_opened (accepts : Nat → Bool) : (opened accepts).Superseding := by
  rintro handle serial generation ⟨receiver, hPending, -⟩
  cases hPending

/-- Each operation keeps the view led and whatever it has superseded about to end. The second is
kept only with the first, since a view gives up what it believes to be in flight. -/
theorem superseding_step (h : page.Superseding) (hLed : page.Led) {operation : Operation}
    (hOrdinary : operation.IsOrdinary) :
    (page.step operation).Superseding ∧ (page.step operation).Led := by
  rcases operation.handles_or with rfl | ⟨frame, rfl⟩ | ⟨hOther, hHandling⟩
  · have hTurn := turn_of_balanced hLed.balanced
    exact ⟨h.turn hLed hTurn, hLed.turn hTurn⟩
  · refine ⟨fun handle serial generation hAwaits => ?_, ?_⟩
    · refine (h handle serial generation hAwaits).imp_right fun hEnding => ?_
      exact hEnding.mono (List.subset_append_left _ _)
    · exact ⟨balanced_step hLed.balanced _, hLed.attributed.step_of_ne hOrdinary (by simp), hLed.leads⟩
  · have hMoves : Moves _ page (page.step operation) := moves_step hOrdinary hOther hHandling
    exact ⟨h.moves hLed hMoves, hLed.moves hMoves⟩

/-- In every run, at most the newest request of the current view is in flight, and all other
requests for rows are about to end. -/
theorem superseding_run (h : page.Superseding) (hLed : page.Led) {operations : List Operation}
    (hOrdinary : ∀ operation ∈ operations, operation.IsOrdinary) :
    (page.run operations).Superseding ∧ (page.run operations).Led := by
  induction operations generalizing page with
  | nil => exact ⟨h, hLed⟩
  | cons operation rest ih =>
      obtain ⟨hFirst, hRest⟩ := List.forall_mem_cons.mp hOrdinary
      obtain ⟨hNext, hNextLed⟩ := superseding_step h hLed hFirst
      exact ih hNext hNextLed hRest

/-- Working off the queue is a run, so it keeps both. -/
theorem superseding_pump (h : page.Superseding) (hLed : page.Led) :
    page.pump.2.Superseding ∧ page.pump.2.Led := by
  refine pump_keeps (fun other => other.Superseding ∧ other.Led) ?_ hLed.balanced ⟨h, hLed⟩
  rintro before next - hTurn ⟨hBefore, hBeforeLed⟩
  exact ⟨hBefore.turn hBeforeLed hTurn, hBeforeLed.turn hTurn⟩

/-- A request is in flight exactly if it waits for the newest rows of the current view. -/
theorem Led.inFlight_iff (h : page.Led) {handle : RequestHandle} :
    page.InFlight handle ↔
      ∃ serial generation, page.IsNewest serial generation ∧
        page.session.Awaits handle serial generation := by
  constructor
  · rintro ⟨view, hView, hHandle⟩
    exact ⟨_, _, ⟨view, hView, rfl, rfl⟩, (h.leads view hView handle).mp hHandle⟩
  · rintro ⟨_, _, ⟨view, hView, rfl, rfl⟩, hAwaits⟩
    exact ⟨view, hView, (h.leads view hView handle).mpr hAwaits⟩

/-- A request for rows is the one in flight, or a terminal reply waits for it. -/
theorem Superseding.inFlight_or_ending (h : page.Superseding) (hLed : page.Led)
    {handle : RequestHandle} {serial generation : Nat}
    (hAwaits : page.session.Awaits handle serial generation) :
    page.InFlight handle ∨ page.session.Ending handle.requestId :=
  (h handle serial generation hAwaits).imp_left fun hNewest =>
    hLed.inFlight_iff.mpr ⟨serial, generation, hNewest, hAwaits⟩

end Run

/-- At most one request for rows is in flight, and none is left behind. In every run of the
operations of the user, over any transport and with any replies, the request in flight of the current
view is the only one that waits for the newest generation of its rows, and a terminal reply is in the
queue for every other request for rows. Hence none but the request in flight is left when the queue
has been worked off. -/
theorem one_request_in_flight (accepts : Nat → Bool) (operations : List Operation)
    (hOrdinary : ∀ operation ∈ operations, operation.IsOrdinary) :
    let page := (opened accepts).run operations
    (∀ view, page.view = some view → ∀ handle,
      view.inFlight = some handle ↔ page.session.Awaits handle view.serial view.generation) ∧
    (∀ view, page.view = some view → ∀ first second,
      page.session.Awaits first view.serial view.generation →
      page.session.Awaits second view.serial view.generation → first = second) ∧
    (∀ handle serial generation, page.session.Awaits handle serial generation →
      ¬ page.InFlight handle → page.session.Ending handle.requestId) ∧
    ∀ handle serial generation, page.pump.2.session.Awaits handle serial generation →
      page.pump.2.InFlight handle := by
  intro page
  obtain ⟨hSuperseding, hLed⟩ :=
    superseding_run (superseding_opened accepts) (led_opened accepts) hOrdinary
  refine ⟨hLed.leads, ?_, ?_, ?_⟩
  · intro view hView first second hFirst hSecond
    have hLeads := hLed.leads view hView
    have hSame := (hLeads first).mpr hFirst
    rw [(hLeads second).mpr hSecond] at hSame
    exact (Option.some.inj hSame).symm
  · intro handle serial generation hAwaits hOther
    exact (hSuperseding.inFlight_or_ending hLed hAwaits).resolve_left hOther
  · intro handle serial generation hAwaits
    obtain ⟨hLast, hLastLed⟩ := superseding_pump hSuperseding hLed
    refine (hLast.inFlight_or_ending hLastLed hAwaits).resolve_right ?_
    -- Nothing waits to be handled any more.
    rintro ⟨reply, hReply, -⟩
    have hQueue : page.pump.2.session.queue = [] := queue_pump hLed.balanced
    rw [mem_repliesTo, hQueue] at hReply
    cases hReply

/-- A table is shown, and its rows are asked for twice before the first reply is handled. -/
theorem one_request_in_flight_of_three :
    let operations : List Operation := [.showTable ⟨"t"⟩, .noRows, .noRows]
    let page := (opened fun _ => true).run operations
    (∀ operation ∈ operations, operation.IsOrdinary) ∧
      (∀ view, page.view = some view → ∀ handle,
        view.inFlight = some handle ↔ page.session.Awaits handle view.serial view.generation) ∧
      (∀ view, page.view = some view → ∀ first second,
        page.session.Awaits first view.serial view.generation →
        page.session.Awaits second view.serial view.generation → first = second) ∧
      (∀ handle serial generation, page.session.Awaits handle serial generation →
        ¬ page.InFlight handle → page.session.Ending handle.requestId) ∧
      ∀ handle serial generation, page.pump.2.session.Awaits handle serial generation →
        page.pump.2.InFlight handle := by
  intro operations page
  have hOrdinary : ∀ operation ∈ operations, operation.IsOrdinary := by
    simp [operations, Operation.IsOrdinary]
  exact ⟨hOrdinary, one_request_in_flight _ operations hOrdinary⟩

end Page

end RemoteTable
