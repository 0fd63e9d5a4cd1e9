import RemoteTable.Proofs.Page.Demultiplexing
import RemoteTable.Proofs.Page.Lineage
import RemoteTable.Proofs.Page.Superseding

/-! Superseded replies have no influence on the view. Once the first table is loaded, working off the
queue does to the view what the receiver of the request in flight does to it when it is fed with the
replies to this request alone. -/

namespace RemoteTable

namespace Receiver

variable {receiver : Receiver}

/-- What a request is for does not depend on its replies. -/
theorem isBootstrap_react (reply : Reply) :
    (receiver.react reply).1.observer.IsBootstrap ↔ receiver.observer.IsBootstrap := by
  unfold react
  repeat' split
  all_goals first
    | exact Observer.isBootstrap_collect
    | rfl

/-- The end of a request without consequences concerns the current view alone. -/
theorem view_finish (hObserver : ¬ receiver.observer.Continues)
    (hActive : receiver.finished = false) (page : Page) :
    (receiver.finish page).2.view = page.view.map receiver.observer.conclude := by
  rw [snd_finish page hActive, Observer.view_onCompleted hObserver]
  rfl

/-- What a reply does to the view depends on nothing else of the page. -/
theorem view_handle_congr (hObserver : ¬ receiver.observer.Continues) (reply : Reply)
    {page other : Page} (hView : page.view = other.view) :
    (receiver.handle reply page).2.view = (receiver.handle reply other).2.view := by
  cases hActive : receiver.finished with
  | true => simpa only [handle_of_finished hActive] using hView
  | false =>
      rcases receiver.decodes_or_ends reply with ⟨result, done, payload, rfl, hDecodes⟩ | hEnds
      · rw [handle_of_decodes page hActive hDecodes, handle_of_decodes other hActive hDecodes,
          view_accept, view_accept, hView]
      · obtain ⟨error, hHandle⟩ := handle_of_ends page hActive hEnds
        obtain ⟨otherError, hOther⟩ := handle_of_ends other hActive hEnds
        rw [hHandle, hOther, view_finish hObserver hActive, view_finish hObserver hActive]
        show page.view.map _ = other.view.map _
        rw [hView]

/-- The view that replies lead to depends on the page through its view only. -/
theorem view_feed_congr (hObserver : ¬ receiver.observer.IsBootstrap) (replies : List Reply)
    {page other : Page} (hView : page.view = other.view) :
    (receiver.feed page replies).2.view = (receiver.feed other replies).2.view := by
  induction replies generalizing receiver page other with
  | nil => exact hView
  | cons reply rest ih =>
      have hNext := view_handle_congr (fun h => hObserver h.isBootstrap) reply hView
      rw [feed, feed, (receiver.handle_react reply page).1, (receiver.handle_react reply other).1]
      exact ih (fun h => hObserver ((isBootstrap_react reply).mp h)) hNext

end Receiver

namespace Observer

/-- No request is put in flight at the end of another one. -/
theorem inFlight_of_conclude {observer : Observer} {view : View} {handle : RequestHandle}
    (h : (observer.conclude view).inFlight = some handle) : view.inFlight = some handle := by
  by_cases hNewest : observer = .renderer view.serial view.generation
  · rw [hNewest, conclude_newest] at h
    cases h
  · rw [conclude_of_ne hNewest] at h
    exact h

end Observer

namespace Page

/-- No step on the way to the first table waits for replies. -/
def Loaded (page : Page) : Prop :=
  ∀ entry ∈ page.session.pending, ¬ entry.2.receiver.observer.IsBootstrap

theorem Loaded.not_continues {page : Page} (h : page.Loaded) {id : Nat} {pending : Pending}
    (hPending : page.session.pending? id = some pending) :
    ¬ pending.receiver.observer.Continues :=
  fun hContinues => h _ (Session.mem_of_pending? hPending) hContinues.isBootstrap

/-- The queue has no part in which request leads the view. -/
theorem Led.withQueue {page : Page} (h : page.Led) (queue : List ReplyFrame) :
    (page.withQueue queue).Led where
  balanced := h.balanced.of_eq rfl rfl rfl
  attributed := h.attributed.inherit (.of_eq rfl List.prefix_rfl (List.Subset.refl _)) rfl rfl
  leads := h.leads

section Turn

variable {page next : Page}

/-- Without a step on the way to the first table, nothing is put into the queue. -/
theorem loaded_turn (h : page.session.Balanced) (hLoaded : page.Loaded) (hTurn : Turn page next) :
    next.Loaded ∧ next.session.queue = page.session.queue.tail := by
  cases hTurn with
  | idle hEmpty => exact ⟨hLoaded, by rw [hEmpty, List.tail_nil]⟩
  | unknown => exact ⟨hLoaded, rfl⟩
  | @accepted id result pending done payload hQueue hPending hDecodes =>
      refine ⟨fun entry hEntry => ?_, queue_resume _ _ _ _ done payload⟩
      rw [session_resume, Session.mem_register, Receiver.pending_progressed] at hEntry
      rcases hEntry with hLeft | rfl
      · exact hLoaded entry (List.mem_of_mem_eraseP hLeft)
      · rw [Observer.isBootstrap_collect]
        exact hLoaded _ (Session.mem_of_pending? hPending)
  | @ended frame pending error hQueue hPending hEnds =>
      rw [Loaded, finish_eq_onCompleted h hPending,
        Observer.session_onCompleted (hLoaded.not_continues hPending)]
      exact ⟨fun entry hLeft => hLoaded entry (List.mem_of_mem_eraseP hLeft), rfl⟩

/-- A reply does not change the current view, or it brings another table, if the one it is for does not
render this view. -/
theorem view_turn_of_former (h : page.session.Balanced) (hTurn : Turn page next) {frame : ReplyFrame}
    (hHead : page.session.queue.head? = some frame)
    (hFormer : ∀ view, page.view = some view → ∀ pending,
      page.session.pending? frame.requestId = some pending →
      pending.receiver.observer ≠ .renderer view.serial view.generation) :
    next.view = page.view ∨ ∃ pending table,
      page.session.pending? frame.requestId = some pending ∧
      pending.receiver.observer = .tableLoader (some table) ∧
      page.ending? = some pending.receiver.observer := by
  have hSame : ∀ change : View → View, (∀ view, page.view = some view → change view = view) →
      page.view.map change = page.view := fun change hChange =>
    (Option.map_congr hChange).trans Option.map_id_apply
  cases hTurn with
  | idle | unknown => exact Or.inl rfl
  | @accepted id result pending done payload hQueue hPending hDecodes =>
      cases hHead.symm.trans hQueue
      rw [view_resume]
      left
      apply hSame
      intro view hView
      exact Observer.display_of_ne (hFormer view hView pending hPending) payload
  | @ended other pending error hQueue hPending hEnds =>
      cases hHead.symm.trans hQueue
      by_cases hContinues : pending.receiver.observer.Continues
      · cases hObserver : pending.receiver.observer with
        | fileSet files =>
            left
            rw [finish_eq_onCompleted h hPending, hObserver]
            cases files <;> rfl
        | tableLoader table =>
            rw [hObserver] at hContinues
            cases table with
            | none => exact hContinues.elim
            | some table =>
                exact Or.inr ⟨pending, table, hPending, hObserver,
                  hObserver ▸ ending?_of_ended h hPending hQueue hEnds⟩
        | renderer | rangeCollector | recorder =>
            rw [hObserver] at hContinues
            exact hContinues.elim
      · rw [Receiver.view_finish hContinues (h.waiting hPending).1]
        left
        apply hSame
        intro view hView
        exact Observer.conclude_of_ne (hFormer view hView pending hPending)

/-- A reply to a request that is not in flight does not change the view. -/
theorem view_turn_of_other (h : page.Led) (hLoaded : page.Loaded) (hTurn : Turn page next)
    (hOther : ∀ frame handle, page.session.queue.head? = some frame → page.InFlight handle →
      frame.requestId ≠ handle.requestId) : next.view = page.view := by
  cases hHead : page.session.queue.head? with
  | none =>
      cases hTurn with
      | idle => rfl
      | unknown hQueue | accepted hQueue | ended hQueue => cases hHead.symm.trans hQueue
  | some frame =>
      -- The renderer of the newest generation belongs to the request in flight.
      have hFormer : ∀ view, page.view = some view → ∀ pending,
          page.session.pending? frame.requestId = some pending →
          pending.receiver.observer ≠ .renderer view.serial view.generation := by
        intro view hView pending hPending hObserver
        have hHandle : view.inFlight = some ⟨frame.requestId, pending.objectId⟩ :=
          (h.leads view hView _).mpr ⟨pending.receiver, hPending, hObserver⟩
        exact hOther frame _ hHead ⟨view, hView, hHandle⟩ rfl
      rcases view_turn_of_former h.balanced hTurn hHead hFormer with
        hSame | ⟨pending, table, hPending, hObserver, -⟩
      · exact hSame
      · exact absurd (hObserver ▸ trivial) (hLoaded.not_continues hPending)

/-- A reply to a request changes the view as the receiver of the request does. -/
theorem view_turn_of_own (h : page.session.Balanced) (hTurn : Turn page next)
    {frame : ReplyFrame} {pending : Pending}
    (hQueue : page.session.queue.head? = some frame)
    (hPending : page.session.pending? frame.requestId = some pending)
    (hObserver : ¬ pending.receiver.observer.Continues) :
    next.view = (pending.receiver.handle frame.reply page).2.view := by
  have hActive := (h.waiting hPending).1
  cases hTurn with
  | idle hEmpty => simp [hEmpty] at hQueue
  | unknown hHead hUnknown =>
      cases hQueue.symm.trans hHead
      cases hUnknown.symm.trans hPending
  | @accepted id result other done payload hHead hFound hDecodes =>
      cases hQueue.symm.trans hHead
      cases hPending.symm.trans hFound
      rw [view_resume, Receiver.handle_of_decodes page hActive hDecodes, Receiver.view_accept]
      rfl
  | @ended other found error hHead hFound hEnds =>
      cases hQueue.symm.trans hHead
      cases hPending.symm.trans hFound
      obtain ⟨reported, hHandle⟩ := Receiver.handle_of_ends page hActive hEnds
      rw [hHandle, Receiver.view_finish hObserver hActive, Receiver.view_finish hObserver hActive]
      rfl

/-- A turn puts no request in flight. -/
theorem inFlight_turn (h : page.session.Balanced) (hLoaded : page.Loaded) (hTurn : Turn page next)
    {handle : RequestHandle} (hNext : next.InFlight handle) : page.InFlight handle := by
  obtain ⟨view, hView, hHandle⟩ := hNext
  cases hTurn with
  | idle | unknown => exact ⟨view, hView, hHandle⟩
  | @accepted id result pending done payload hQueue hPending hDecodes =>
      rw [view_resume, Option.map_eq_some_iff] at hView
      obtain ⟨before, hBefore, rfl⟩ := hView
      have hLead := pending.receiver.observer.lead_display payload before
      simp only [View.lead, Prod.mk.injEq] at hLead
      exact ⟨before, hBefore, hLead.2.2.symm.trans hHandle⟩
  | @ended frame pending error hQueue hPending hEnds =>
      rw [Receiver.view_finish (hLoaded.not_continues hPending) (h.waiting hPending).1,
        Option.map_eq_some_iff] at hView
      obtain ⟨before, hBefore, rfl⟩ := hView
      exact ⟨before, hBefore, Observer.inFlight_of_conclude hHandle⟩

end Turn

/-- This receiver has the replies of the request in flight, as long as there is one. -/
structure Attends (page : Page) (receiver : Receiver) : Prop where
  follows : page.Follows receiver.requestId receiver
  alone : ∀ handle, page.InFlight handle → handle.requestId = receiver.requestId

section Attends

variable {page next : Page}

theorem Led.awaits (h : page.Led) {handle : RequestHandle} (hHandle : page.InFlight handle) :
    ∃ serial generation, page.session.Awaits handle serial generation := by
  obtain ⟨view, hView, hInFlight⟩ := hHandle
  exact ⟨_, _, (h.leads view hView handle).mp hInFlight⟩

/-- The request in flight has a receiver, which shows rows. -/
theorem Led.attends (h : page.Led) {handle : RequestHandle} (hHandle : page.InFlight handle) :
    ∃ receiver, page.Attends receiver ∧ receiver.requestId = handle.requestId ∧
      ¬ receiver.observer.IsBootstrap := by
  obtain ⟨serial, generation, receiver, hPending, hObserver⟩ := h.awaits hHandle
  have hEntry := Session.mem_of_pending? hPending
  obtain ⟨hActive, hName⟩ := h.balanced.active _ hEntry
  refine ⟨receiver, ⟨?_, ?_⟩, hName, by simp [hObserver, Observer.IsBootstrap]⟩
  · rw [hName]
    refine ⟨h.balanced.below _ hEntry, hName, fun _ => ⟨handle.objectId, hPending⟩, ?_⟩
    intro hFinished
    exact absurd (hActive.symm.trans hFinished) Bool.false_ne_true
  · intro other hOther
    obtain ⟨view, hView, hInFlight⟩ := hHandle
    obtain ⟨same, hSame, hAlso⟩ := hOther
    rw [hView, Option.some.injEq] at hSame
    subst hSame
    rw [hInFlight, Option.some.injEq] at hAlso
    rw [← hAlso, hName]

/-- A reply to the request in flight, or to the one that was, changes view and receiver alike. -/
theorem Attends.turn_of_own {receiver : Receiver} (h : page.Attends receiver) (hLed : page.Led)
    (hLoaded : page.Loaded) (hObserver : ¬ receiver.observer.IsBootstrap) (hTurn : Turn page next)
    {reply : Reply} (hHead : page.session.queue.head? = some ⟨receiver.requestId, reply⟩) :
    next.Attends (receiver.react reply).1 ∧
      next.view = (receiver.handle reply page).2.view := by
  have hName := receiver.requestId_react reply
  obtain ⟨hFollows, -⟩ := follows_turn hLed.balanced hTurn h.follows hHead
  constructor
  · refine ⟨hName.symm ▸ hFollows, fun handle hHandle => ?_⟩
    rw [hName]
    exact h.alone handle (inFlight_turn hLed.balanced hLoaded hTurn hHandle)
  · cases hActive : receiver.finished with
    | false =>
        obtain ⟨objectId, hPending⟩ := h.follows.waits hActive
        exact view_turn_of_own hLed.balanced hTurn hHead hPending
          fun hContinues => hObserver hContinues.isBootstrap
    | true =>
        rw [Receiver.handle_of_finished hActive]
        refine view_turn_of_other hLed hLoaded hTurn fun frame handle _ hHandle => ?_
        -- The request has ended, so none is in flight.
        obtain ⟨_, _, hAwaits⟩ := hLed.awaits hHandle
        have hWaits := hAwaits.isSome
        rw [h.alone handle hHandle, h.follows.gone hActive] at hWaits
        cases hWaits

/-- Any other reply changes neither of them. -/
theorem Attends.turn_of_other {receiver : Receiver} (h : page.Attends receiver) (hLed : page.Led)
    (hLoaded : page.Loaded) (hTurn : Turn page next)
    (hOther : ∀ frame, page.session.queue.head? = some frame →
      frame.requestId ≠ receiver.requestId) :
    next.Attends receiver ∧ next.view = page.view := by
  obtain ⟨hFollows, -⟩ := follows_turn_of_other hLed.balanced hTurn h.follows hOther
  refine ⟨⟨hFollows, fun handle hHandle => ?_⟩, ?_⟩
  · exact h.alone handle (inFlight_turn hLed.balanced hLoaded hTurn hHandle)
  · refine view_turn_of_other hLed hLoaded hTurn fun frame handle hHead hHandle => ?_
    rw [h.alone handle hHandle]
    exact hOther frame hHead

end Attends

section Run

variable {page : Page}

/-- Working off the queue changes the view as the receiver of the request in flight does that is fed
with the replies to this request alone. -/
theorem view_run_eq_feed (h : page.Led) (hLoaded : page.Loaded) {receiver : Receiver}
    (hObserver : ¬ receiver.observer.IsBootstrap) (hAttends : page.Attends receiver) :
    (page.run (List.replicate page.session.queue.length .handleNext)).view =
      (receiver.feed page (repliesTo receiver.requestId page.session.queue)).2.view := by
  induction hQueue : page.session.queue generalizing page receiver with
  | nil => rfl
  | cons frame rest ih =>
      have hTurn := turn_of_balanced h.balanced
      have hHead : page.session.queue.head? = some frame := by rw [hQueue, List.head?_cons]
      obtain ⟨hNextLoaded, hTail⟩ := loaded_turn h.balanced hLoaded hTurn
      rw [hQueue, List.tail_cons] at hTail
      rw [List.length_cons, List.replicate_succ, run_cons]
      by_cases hOwn : frame.requestId = receiver.requestId
      · obtain ⟨id, reply⟩ := frame
        subst hOwn
        have hNext : ¬ (receiver.react reply).1.observer.IsBootstrap := by
          rw [Receiver.isBootstrap_react]
          exact hObserver
        obtain ⟨hNextAttends, hView⟩ :=
          hAttends.turn_of_own h hLoaded hObserver hTurn hHead
        rw [ih (h.turn hTurn) hNextLoaded hNext hNextAttends hTail, receiver.requestId_react,
          repliesTo_cons_self, Receiver.feed, (receiver.handle_react reply page).1]
        exact Receiver.view_feed_congr hNext _ hView
      · have hOther : ∀ first, page.session.queue.head? = some first →
            first.requestId ≠ receiver.requestId := by
          intro first hFirst
          rw [hHead, Option.some.injEq] at hFirst
          rw [← hFirst]
          exact hOwn
        obtain ⟨hNextAttends, hView⟩ := hAttends.turn_of_other h hLoaded hTurn hOther
        rw [ih (h.turn hTurn) hNextLoaded hObserver hNextAttends hTail, repliesTo_cons_of_ne hOwn]
        exact Receiver.view_feed_congr hObserver _ hView

/-- Only the steps on the way to the first table cause further replies. -/
theorem weight_of_not_isBootstrap {observer : Observer} (h : ¬ observer.IsBootstrap) :
    observer.weight = 0 := by
  cases observer with
  | fileSet | tableLoader => exact absurd trivial h
  | _ => rfl

/-- No reply will be put into the queue while it is worked off. -/
theorem pumpBound_of_loaded (hLoaded : page.Loaded) :
    page.pumpBound = page.session.queue.length := by
  have hNone : Session.outstanding page.session.pending = 0 :=
    Session.outstanding_eq_zero fun entry hEntry => weight_of_not_isBootstrap (hLoaded entry hEntry)
  rw [pumpBound_eq, hNone, Nat.zero_add]

/-- Of all replies in the queue, those to the request in flight make the view. -/
theorem view_pump_eq_feed (h : page.Led) (hLoaded : page.Loaded) {receiver : Receiver}
    (hObserver : ¬ receiver.observer.IsBootstrap) (hAttends : page.Attends receiver) :
    page.pump.2.view =
      (receiver.feed page (repliesTo receiver.requestId page.session.queue)).2.view := by
  rw [pump_eq_run, pumpBound_of_loaded hLoaded]
  exact view_run_eq_feed h hLoaded hObserver hAttends

/-- Without a request in flight, nothing changes the view. -/
theorem view_pump_of_idle (h : page.Led) (hLoaded : page.Loaded)
    (hIdle : ∀ handle, ¬ page.InFlight handle) : page.pump.2.view = page.view := by
  have hStays := pump_keeps (fun other => other.Led ∧ other.Loaded ∧
    (∀ handle, ¬ other.InFlight handle) ∧ other.view = page.view) ?_ h.balanced
    ⟨h, hLoaded, hIdle, rfl⟩
  · exact hStays.2.2.2
  · rintro before next - hTurn ⟨hLed, hBefore, hNone, hView⟩
    refine ⟨hLed.turn hTurn, (loaded_turn hLed.balanced hBefore hTurn).1, ?_, ?_⟩
    · intro handle hHandle
      exact hNone handle (inFlight_turn hLed.balanced hBefore hTurn hHandle)
    · rw [← hView]
      exact view_turn_of_other hLed hBefore hTurn fun _ handle _ hHandle =>
        absurd hHandle (hNone handle)

end Run

/-- Superseded replies have no influence on the view. In every run of the operations of the user, over
any transport and with any replies, once no step on the way to the first table waits for replies:
whatever replies are in the queue, working them off leaves the same view as long as those to the
request in flight are the same, and the view as it is if there is no such request. -/
theorem view_pump_eq_of_repliesTo_eq (accepts : Nat → Bool) (operations : List Operation)
    (hOrdinary : ∀ operation ∈ operations, operation.IsOrdinary)
    (hLoaded : ((opened accepts).run operations).Loaded) :
    let page := (opened accepts).run operations
    (∀ first second : List ReplyFrame,
      (∀ handle, page.InFlight handle →
        repliesTo handle.requestId first = repliesTo handle.requestId second) →
      (page.withQueue first).pump.2.view = (page.withQueue second).pump.2.view) ∧
    ((∀ handle, ¬ page.InFlight handle) →
      ∀ queue, (page.withQueue queue).pump.2.view = page.view) := by
  intro page
  obtain ⟨-, hLed⟩ := superseding_run (superseding_opened accepts) (led_opened accepts) hOrdinary
  have hIdle : (∀ handle, ¬ page.InFlight handle) →
      ∀ queue, (page.withQueue queue).pump.2.view = page.view := by
    intro hNone queue
    exact view_pump_of_idle (hLed.withQueue queue) hLoaded hNone
  refine ⟨fun first second hSame => ?_, hIdle⟩
  by_cases hFlying : ∃ handle, page.InFlight handle
  · obtain ⟨handle, hHandle⟩ := hFlying
    obtain ⟨receiver, hAttends, hName, hObserver⟩ := hLed.attends hHandle
    have hFeed : ∀ queue, (page.withQueue queue).pump.2.view =
        (receiver.feed page (repliesTo receiver.requestId queue)).2.view := by
      intro queue
      have hOther : (page.withQueue queue).Attends receiver :=
        ⟨hAttends.follows.of_eq rfl (Nat.le_refl _), hAttends.alone⟩
      rw [view_pump_eq_feed (hLed.withQueue queue) hLoaded hObserver hOther]
      exact Receiver.view_feed_congr hObserver _ rfl
    rw [hFeed, hFeed, hName, hSame handle hHandle]
  · have hNone : ∀ handle, ¬ page.InFlight handle := fun handle hHandle =>
      hFlying ⟨handle, hHandle⟩
    rw [hIdle hNone, hIdle hNone]

/-- A late schema, the end of the request that was given up and a reply that nobody waits for, around
the rows that are in flight. -/
theorem view_pump_eq_of_late_replies :
    let operations : List Operation := [.showTable ⟨"t"⟩, .noRows]
    let page := (opened fun _ => true).run operations
    let late : List ReplyFrame := [⟨1, .next (.object [("done", .int 1), ("data", .object
      [("schema", .array []), ("rowCount", .int 1)])])⟩, ⟨1, .completed⟩]
    let rows : ReplyFrame := ⟨2, .next (.object [("done", .int 1), ("data", .object
      [("rowCount", .int 5)])])⟩
    (∀ operation ∈ operations, operation.IsOrdinary) ∧ page.Loaded ∧
      (∀ handle, page.InFlight handle →
        repliesTo handle.requestId (late ++ [rows, ⟨7, .error "gone"⟩]) =
          repliesTo handle.requestId [rows]) ∧
      (page.withQueue (late ++ [rows, ⟨7, .error "gone"⟩])).pump.2.view =
        (page.withQueue [rows]).pump.2.view := by
  intro operations page late rows
  have hOrdinary : ∀ operation ∈ operations, operation.IsOrdinary := by
    simp [operations, Operation.IsOrdinary]
  have hPending : page.session.pending = [(1, ⟨⟨"t"⟩, ⟨1, 0, false, .renderer 0 1⟩⟩),
      (2, ⟨⟨"t"⟩, ⟨2, 1, false, .renderer 0 2⟩⟩)] := rfl
  have hLoaded : page.Loaded := by
    rw [Loaded, hPending]
    simp [Observer.IsBootstrap]
  have hSame : ∀ handle, page.InFlight handle →
      repliesTo handle.requestId (late ++ [rows, ⟨7, .error "gone"⟩]) =
        repliesTo handle.requestId [rows] := by
    rintro handle ⟨view, hView, hHandle⟩
    cases hView
    cases hHandle
    rfl
  exact ⟨hOrdinary, hLoaded, hSame,
    (view_pump_eq_of_repliesTo_eq _ operations hOrdinary hLoaded).1 _ _ hSame⟩

end Page

end RemoteTable
