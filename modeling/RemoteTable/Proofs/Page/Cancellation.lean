import RemoteTable.Proofs.Page.Demultiplexing
import RemoteTable.Proofs.Page.Draining

/-! Giving up everything. All requests that wait end when the queue is worked off. A step on the way
to the first table that has its value by then asks for the next step all the same, and the request
for that is left. -/

namespace RemoteTable

namespace Receiver

/-- A cancellation brings no value. -/
theorem observer_after_cancelled (receiver : Receiver) {replies : List Reply}
    (hCancelled : ∀ reply ∈ replies, reply = .cancelled) :
    (receiver.after replies).observer = receiver.observer := by
  induction replies generalizing receiver with
  | nil => rfl
  | cons reply rest ih =>
      obtain ⟨rfl, hRest⟩ := List.forall_mem_cons.mp hCancelled
      have hReact : (receiver.react .cancelled).1.observer = receiver.observer := by
        cases hActive : receiver.finished <;> simp [react, hActive]
      exact (ih _ hRest).trans hReact

end Receiver

namespace Observer

/-- With the value that leads to it, a further request is issued at the end. -/
theorem Continues.issues {observer : Observer} (h : observer.Continues) (page : Page) :
    ∃ earlier call next, page.session.Quiet earlier ∧
      (observer.onCompleted page).session = (earlier.invoke call next).2 := by
  unfold Continues at h
  split at h
  · exact ⟨_, _, _, .refl, rfl⟩
  · rename_i tableId
    exact ⟨(page.newView tableId).session, .bare tableId "getSchema", .renderer page.nextSerial 1,
      (page.quiet_newView tableId).session, rfl⟩
  · exact h.elim

end Observer

namespace Page

/-- With the replies that wait for it, this request gets the value that leads to a further one. -/
def Continues (page : Page) (id : Nat) : Prop :=
  ∃ pending, page.session.pending? id = some pending ∧
    (pending.receiver.after (repliesTo id page.session.queue)).observer.Continues

section Turn

variable {page next : Page} {id : Nat}

/-- Whether a request continues depends on itself and on the replies to it. -/
theorem continues_congr (hPending : next.session.pending? id = page.session.pending? id)
    (hReplies : repliesTo id next.session.queue = repliesTo id page.session.queue) :
    next.Continues id ↔ page.Continues id := by
  unfold Continues
  rw [hPending, hReplies]

/-- A reply has been handled, and nothing has been asked of the server. -/
structure Stays (page next : Page) : Prop where
  queue : next.session.queue = page.session.queue.tail
  nextRequestId : next.session.nextRequestId = page.session.nextRequestId
  continues : ∀ id, next.Continues id ↔ page.Continues id

/-- A request that continues has ended, and a further request has been issued for it, as the last
thing. -/
def Advances (page next : Page) : Prop :=
  ∃ id pending error earlier call observer,
    page.session.pending? id = some pending ∧ page.Continues id ∧
      (page.concluded id pending.receiver error).session.Quiet earlier ∧
      next.session = (Session.invoke earlier call observer).2

/-- A reply to no waiting request asks for nothing. -/
theorem stays_unknown {frame : ReplyFrame} (hQueue : page.session.queue.head? = some frame)
    (hUnknown : page.session.pending? frame.requestId = none) : page.Stays page.popped := by
  refine ⟨rfl, rfl, fun id => ?_⟩
  by_cases hOwn : frame.requestId = id
  · subst hOwn
    have hStill : page.popped.session.pending? frame.requestId = none := hUnknown
    simp [Continues, hUnknown, hStill]
  · exact continues_congr rfl (repliesTo_of_head_ne hQueue hOwn).symm

/-- A value asks for nothing, even if it is the one that leads to a further request. -/
theorem stays_accepted (h : page.session.Balanced) {result : Json} {pending : Pending}
    {done : Option Double} {payload : Payload}
    (hQueue : page.session.queue.head? = some ⟨id, .next result⟩)
    (hPending : page.session.pending? id = some pending)
    (hDecodes : pending.receiver.observer.decode result = .ok (done, payload)) :
    page.Stays (resume pending.objectId id
      (pending.receiver.accept done payload (page.popped.withdrawn id))) := by
  have hTail := queue_resume (page.popped.withdrawn id) pending.objectId id pending.receiver done
    payload
  refine ⟨hTail, nextRequestId_resume _ _ _ _ _ _, fun other => ?_⟩
  by_cases hOwn : id = other
  · subst hOwn
    have hActive := (h.waiting hPending).1
    have hAfter : pending.receiver.after (repliesTo id page.session.queue) =
        { pending.receiver with observer := pending.receiver.observer.collect payload }.after
          (repliesTo id page.session.queue.tail) := by
      rw [repliesTo_of_head hQueue, Receiver.after_cons, Receiver.react_of_decodes hActive hDecodes]
    simp only [Continues, pending?_resume_self _ done payload h.keys, hTail, hPending,
      Option.some.injEq, exists_eq_left', hAfter]
    rfl
  · refine continues_congr (pending?_resume_of_ne _ done payload (Ne.symm hOwn)) ?_
    rw [hTail]
    exact (repliesTo_of_head_ne hQueue hOwn).symm

/-- The observer of a request that ends with the first reply has its value already or never gets
it. -/
theorem continues_of_ends (h : page.session.Balanced) {frame : ReplyFrame} {pending : Pending}
    (hQueue : page.session.queue.head? = some frame)
    (hPending : page.session.pending? frame.requestId = some pending)
    (hEnds : ∀ result value, frame.reply = .next result →
      pending.receiver.observer.decode result ≠ .ok value) :
    page.Continues frame.requestId ↔ pending.receiver.observer.Continues := by
  have hActive := (h.waiting hPending).1
  have hAfter : (pending.receiver.after (repliesTo frame.requestId page.session.queue)).observer =
      pending.receiver.observer := by
    rw [repliesTo_of_head hQueue, Receiver.after_cons, Receiver.react_of_ends hActive hEnds,
      Receiver.after_of_finished rfl]
  simp [Continues, hPending, hAfter]

/-- A request that does not continue leaves the other ones as they are when it ends. -/
theorem stays_concluded (h : page.session.Balanced) {frame : ReplyFrame} {receiver : Receiver}
    {error : Option String} (hQueue : page.session.queue.head? = some frame)
    (hOwn : ¬ page.Continues frame.requestId)
    (hSession : next.session = (page.concluded frame.requestId receiver error).session) :
    page.Stays next := by
  refine ⟨by rw [hSession]; rfl, by rw [hSession]; rfl, fun id => ?_⟩
  by_cases hSame : frame.requestId = id
  · subst hSame
    have hGone : next.session.pending? frame.requestId = none := by
      rw [hSession, pending?_concluded h, if_pos rfl]
    refine iff_of_false ?_ hOwn
    rintro ⟨other, hOther, -⟩
    cases hGone.symm.trans hOther
  · have hOther : next.session.pending? id = page.session.pending? id := by
      rw [hSession, pending?_concluded h, if_neg (Ne.symm hSame)]
    refine continues_congr hOther ?_
    rw [hSession]
    exact (repliesTo_of_head_ne hQueue hSame).symm

/-- Only the end of a request that continues asks for anything. -/
theorem turn_stays_or_advances (h : page.session.Balanced) (hTurn : Turn page next) :
    page.Stays next ∨ page.Advances next := by
  cases hTurn with
  | idle hEmpty => exact Or.inl ⟨by rw [hEmpty, List.tail_nil], rfl, fun _ => Iff.rfl⟩
  | unknown hQueue hUnknown => exact Or.inl (stays_unknown hQueue hUnknown)
  | accepted hQueue hPending hDecodes => exact Or.inl (stays_accepted h hQueue hPending hDecodes)
  | @ended frame pending error hQueue hPending hEnds =>
      have hOwn := continues_of_ends h hQueue hPending hEnds
      rw [finish_eq_onCompleted h hPending]
      by_cases hContinues : pending.receiver.observer.Continues
      · obtain ⟨earlier, call, observer, hQuiet, hIssue⟩ :=
          hContinues.issues (page.concluded frame.requestId pending.receiver error)
        exact Or.inr ⟨frame.requestId, pending, error, earlier, call, observer, hPending,
          hOwn.mpr hContinues, hQuiet, hIssue⟩
      · have hSession := Observer.session_onCompleted hContinues
          (page.concluded frame.requestId pending.receiver error)
        exact Or.inl (stays_concluded h hQueue (mt hOwn.mp hContinues) hSession)

/-- The transport is the same, whatever is handled. -/
theorem accepts_turn (h : page.session.Balanced) (hTurn : Turn page next) :
    next.session.accepts = page.session.accepts := by
  cases hTurn with
  | idle | unknown => rfl
  | accepted => exact accepts_resume _ _ _ _ _ _
  | @ended frame pending error hQueue hPending hEnds =>
      exact (uses_finish_concluded h hPending error).accepts_eq

end Turn

section Pump

variable {page : Page}

/-- The requests up to a number have ended, or their end waits to be handled. -/
def Expiring (page : Page) (bound : Nat) : Prop :=
  ∀ id < bound, page.session.pending? id = none ∨ page.session.Ending id

/-- A request whose end waits to be handled has ended when the queue has been worked off. -/
theorem pending?_pump_of_ending (h : page.session.Balanced) {id : Nat}
    (hIssued : id < page.session.nextRequestId)
    (hEnding : page.session.pending? id = none ∨ page.session.Ending id) :
    page.pump.2.session.pending? id = none := by
  have hLast : page.pump.2.session.pending? id = none ∨ page.pump.2.session.Ending id := by
    refine (pump_keeps (fun other => id < other.session.nextRequestId ∧
      (other.session.pending? id = none ∨ other.session.Ending id)) ?_ h ⟨hIssued, hEnding⟩).2
    rintro before next hBalanced hTurn ⟨hBefore, hNone | hWaits⟩
    · exact ⟨Nat.lt_of_lt_of_le hBefore (nextRequestId_le_turn hBalanced hTurn),
        Or.inl (pending?_turn_of_none hBalanced hTurn hBefore hNone)⟩
    · exact ⟨Nat.lt_of_lt_of_le hBefore (nextRequestId_le_turn hBalanced hTurn),
        ending_turn hBalanced hTurn hWaits⟩
  rcases hLast with hNone | ⟨reply, hReply, -⟩
  · exact hNone
  · rw [mem_repliesTo, queue_pump h] at hReply
    cases hReply

/-- None of these requests waits when the queue has been worked off. -/
theorem Expiring.pump {bound : Nat} (hExpiring : page.Expiring bound)
    (hBound : bound ≤ page.session.nextRequestId) (h : page.session.Balanced)
    {entry : Nat × Pending} (hEntry : entry ∈ page.pump.2.session.pending) : bound ≤ entry.1 := by
  apply Nat.not_lt.mp
  intro hBelow
  have hNone := pending?_pump_of_ending h (Nat.lt_of_lt_of_le hBelow hBound)
    (hExpiring entry.1 hBelow)
  exact Session.pending?_eq_none_iff.mp hNone (List.mem_map_of_mem hEntry)

/-- If no request continues, working off the queue issues none. -/
theorem nextRequestId_pump_of_not_continues (h : page.session.Balanced)
    (hEnds : ∀ id, ¬ page.Continues id) :
    page.pump.2.session.nextRequestId = page.session.nextRequestId := by
  refine (pump_keeps (fun other => (∀ id, ¬ other.Continues id) ∧
    other.session.nextRequestId = page.session.nextRequestId) ?_ h ⟨hEnds, rfl⟩).2
  rintro before next hBalanced hTurn ⟨hBefore, hSame⟩
  rcases turn_stays_or_advances hBalanced hTurn with
    hStays | ⟨id, -, -, -, -, -, -, hContinues, -⟩
  · exact ⟨fun id hNext => hBefore id ((hStays.continues id).mp hNext),
      hStays.nextRequestId.trans hSame⟩
  · exact absurd hContinues (hBefore id)

/-- A request waits, or will wait, with nothing in the queue that could end it. -/
structure Lasting (page : Page) : Prop where
  known : page.session.Known
  accepts : ∀ place, page.session.accepts place = true
  waits : ∃ id, page.Continues id ∨ page.session.Live id

/-- A reply that asks for nothing cannot end a request without replies in the queue. -/
theorem Stays.live {next : Page} (hStays : page.Stays next) (h : page.session.Balanced)
    (hTurn : Turn page next) {id : Nat} (hLive : page.session.Live id) : next.session.Live id := by
  obtain ⟨hWaits, hNone⟩ := hLive
  constructor
  · have hOther : ∀ frame, page.session.queue.head? = some frame → frame.requestId ≠ id := by
      rintro ⟨owner, reply⟩ hHead rfl
      rw [repliesTo_of_head hHead] at hNone
      cases hNone
    rw [pending?_turn_of_ne h hTurn (h.issued hWaits) hOther]
    exact hWaits
  · rw [List.eq_nil_iff_forall_not_mem] at hNone ⊢
    intro reply hReply
    rw [mem_repliesTo, hStays.queue] at hReply
    exact hNone reply (mem_repliesTo.mpr (List.mem_of_mem_tail hReply))

/-- The request that is issued for one that continues waits with nothing in the queue. -/
theorem Advances.live {next : Page} (hAdvances : page.Advances next) (h : page.session.Balanced)
    (hKnown : page.session.Known) (hAccepts : ∀ place, page.session.accepts place = true) :
    next.session.Known ∧ ∃ id, next.session.Live id := by
  obtain ⟨key, pending, error, earlier, call, observer, hPending, -, hQuiet, hIssue⟩ := hAdvances
  have hConcluded := balanced_concluded h hPending error
  have hPopped : (page.concluded key pending.receiver error).session.Known :=
    fun frame hFrame => hKnown frame (List.mem_of_mem_tail hFrame)
  have hBefore : earlier.Known := hPopped.quiet (fun _ => hConcluded.issued) hQuiet
  have hBalanced := hConcluded.quiet hQuiet
  have hOpen : ∀ place, earlier.accepts place = true := by
    rw [hQuiet.accepts_eq]
    exact hAccepts
  rw [hIssue]
  exact ⟨hBefore.uses (fun _ => hBalanced.issued) (.issue .refl call observer),
    earlier.nextRequestId, hBefore.live_invoke hBalanced.pending?_next hOpen call observer⟩

/-- A request that lasts ends only by issuing a further one, which then lasts. -/
theorem Lasting.turn {next : Page} (hLasting : page.Lasting) (h : page.session.Balanced)
    (hTurn : Turn page next) : next.Lasting := by
  have hAccepts : ∀ place, next.session.accepts place = true := by
    rw [accepts_turn h hTurn]
    exact hLasting.accepts
  rcases turn_stays_or_advances h hTurn with hStays | hAdvances
  · have hKnown : next.session.Known := by
      intro frame hFrame
      rw [hStays.queue] at hFrame
      rw [hStays.nextRequestId]
      exact hLasting.known frame (List.mem_of_mem_tail hFrame)
    obtain ⟨id, hContinues | hLive⟩ := hLasting.waits
    · exact ⟨hKnown, hAccepts, id, Or.inl ((hStays.continues id).mpr hContinues)⟩
    · exact ⟨hKnown, hAccepts, id, Or.inr (hStays.live h hTurn hLive)⟩
  · obtain ⟨hKnown, id, hLive⟩ := hAdvances.live h hLasting.known hLasting.accepts
    exact ⟨hKnown, hAccepts, id, Or.inr hLive⟩

/-- So one of them is left when the queue has been worked off. -/
theorem Lasting.pump (hLasting : page.Lasting) (h : page.session.Balanced) : page.pump.2.Lasting :=
  pump_keeps Lasting (fun hBalanced hTurn hBefore => hBefore.turn hBalanced hTurn) h hLasting

/-- Whoever lasts waits or will wait. -/
theorem Lasting.pending_ne_nil (hLasting : page.Lasting) : page.session.pending ≠ [] := by
  have hWaits : ∃ id, (page.session.pending? id).isSome := by
    obtain ⟨id, ⟨pending, hPending, -⟩ | ⟨hWaits, -⟩⟩ := hLasting.waits
    · exact ⟨id, by rw [hPending]; rfl⟩
    · exact ⟨id, hWaits⟩
  obtain ⟨id, hWaits⟩ := hWaits
  intro hNone
  rw [Session.pending?, hNone] at hWaits
  cases hWaits

end Pump

section CancelAll

variable {page : Page}

/-- One cancellation for each bar comes behind the replies that have come in before. -/
theorem queue_cancelAll (h : page.session.Balanced) :
    page.cancelAll.2.session.queue = page.session.queue ++
      (page.session.progress.bars.map ProgressBar.requestId).map fun id => ⟨id, .cancelled⟩ :=
  (page.session.cancelEach_of_pending fun id hId => (h.shown id).mp hId).2

/-- Cancelling all asks for nothing. -/
theorem quiet_cancelAll (page : Page) : page.session.Quiet page.cancelAll.2.session :=
  Session.quiet_cancelEach _ _

/-- All requests that wait are to end then. -/
theorem expiring_cancelAll (h : page.session.Balanced) (bound : Nat) :
    page.cancelAll.2.Expiring bound := by
  intro id _
  by_cases hWaits : id ∈ page.session.pending.map Prod.fst
  · refine Or.inr ⟨.cancelled, mem_repliesTo.mpr ?_, trivial⟩
    rw [queue_cancelAll h]
    exact List.mem_append_right _ (List.mem_map_of_mem ((h.shown id).mpr hWaits))
  · rw [← page.quiet_cancelAll.pending_eq] at hWaits
    exact Or.inl (Session.pending?_eq_none_iff.mpr hWaits)

/-- Cancellations do not change which requests continue. -/
theorem continues_cancelAll (h : page.session.Balanced) {id : Nat} :
    page.cancelAll.2.Continues id ↔ page.Continues id := by
  have hPending : page.cancelAll.2.session.pending? id = page.session.pending? id := by
    rw [Session.pending?, Session.pending?, page.quiet_cancelAll.pending_eq]
  have hObserver : ∀ receiver : Receiver,
      (receiver.after (repliesTo id page.cancelAll.2.session.queue)).observer =
        (receiver.after (repliesTo id page.session.queue)).observer := by
    intro receiver
    rw [queue_cancelAll h, repliesTo_append, Receiver.after_append]
    apply Receiver.observer_after_cancelled
    intro reply hReply
    obtain ⟨other, -, hSame⟩ := List.mem_map.mp (mem_repliesTo.mp hReply)
    exact (ReplyFrame.mk.inj hSame).2.symm
  unfold Continues
  rw [hPending]
  simp only [hObserver]

theorem accepts_step (h : page.session.Balanced) (operation : Operation) :
    (page.step operation).session.accepts = page.session.accepts := by
  rcases page.step_cases operation with rfl | ⟨frame, rfl⟩ | ⟨-, hUses⟩
  · exact accepts_turn h (turn_of_balanced h)
  · rfl
  · exact hUses.session.accepts_eq

theorem accepts_run (h : page.session.Balanced) (operations : List Operation) :
    (page.run operations).session.accepts = page.session.accepts := by
  refine run_keeps (motive := fun other => other.session.accepts = page.session.accepts) ?_ h rfl
  intro operation _ before hBalanced hSame
  rw [accepts_step hBalanced, hSame]

end CancelAll

/-- In every run of a page over a transport that takes every frame, all requests that wait have ended
when everything has been given up and the queue has been worked off. If none of them continues,
nothing is left, neither a request nor a progress bar. If one does, its further request is left, and
the bar of that, as long as replies wait to requests only that have been issued. -/
theorem pending_pump_cancelAll (operations : List Operation) :
    let page := (opened fun _ => true).run operations
    let last := page.cancelAll.2.pump.2
    (∀ entry ∈ last.session.pending, page.session.nextRequestId ≤ entry.1) ∧
    ((∀ id, ¬ page.Continues id) → last.session.pending = [] ∧ last.session.progress.bars = []) ∧
    (page.session.Known → ∀ id, page.Continues id →
      last.session.pending ≠ [] ∧ last.session.progress.bars ≠ []) := by
  intro page last
  have hBalanced : page.session.Balanced := balanced_run (.fresh _) operations
  have hQuiet := page.quiet_cancelAll
  have hGiven : page.cancelAll.2.session.Balanced := hBalanced.quiet hQuiet
  have hLast : last.session.Balanced := balanced_pump hGiven
  have hExpired : ∀ entry ∈ last.session.pending, page.session.nextRequestId ≤ entry.1 := by
    intro entry hEntry
    have hBound := Nat.le_of_eq hQuiet.nextRequestId_eq.symm
    exact (expiring_cancelAll hBalanced page.session.nextRequestId).pump hBound hGiven hEntry
  refine ⟨hExpired, fun hEnds => ?_, fun hKnown id hContinues => ?_⟩
  · have hNext : last.session.nextRequestId = page.session.nextRequestId := by
      have hStill : ∀ id, ¬ page.cancelAll.2.Continues id := fun id hContinues =>
        hEnds id ((continues_cancelAll hBalanced).mp hContinues)
      exact (nextRequestId_pump_of_not_continues hGiven hStill).trans hQuiet.nextRequestId_eq
    have hNone : last.session.pending = [] := by
      rw [List.eq_nil_iff_forall_not_mem]
      intro entry hEntry
      have hOld := hExpired entry hEntry
      have hNew := hLast.below entry hEntry
      omega
    exact ⟨hNone, hLast.bars_eq_nil_iff.mpr hNone⟩
  · have hLasting : page.cancelAll.2.Lasting := by
      refine ⟨hKnown.quiet (fun _ => hBalanced.issued) hQuiet, ?_,
        id, Or.inl ((continues_cancelAll hBalanced).mpr hContinues)⟩
      intro place
      have hStart : (opened fun _ => true).session.Balanced := .fresh _
      rw [hQuiet.accepts_eq, accepts_run hStart]
      rfl
    have hWaits : last.session.pending ≠ [] := (hLasting.pump hGiven).pending_ne_nil
    exact ⟨hWaits, fun hNone => hWaits (hLast.bars_eq_nil_iff.mp hNone)⟩

/-- A table whose columns are asked for continues with nothing; the files that have been found lead to
a table. -/
theorem pending_pump_cancelAll_of_table_of_files :
    let table := (opened fun _ => true).run [.showTable ⟨"t"⟩]
    let files := (opened fun _ => true).run [.start, .receive ⟨1, .next (.string "files-1")⟩]
    ((∀ id, ¬ table.Continues id) ∧ table.cancelAll.2.pump.2.session.pending = [] ∧
      table.cancelAll.2.pump.2.session.progress.bars = []) ∧
    (files.session.Known ∧ files.Continues 1 ∧ files.cancelAll.2.pump.2.session.pending ≠ [] ∧
      files.cancelAll.2.pump.2.session.progress.bars ≠ []) := by
  intro table files
  have hTable : ∀ id, ¬ table.Continues id := by
    rintro id ⟨pending, hPending, hContinues⟩
    have hEntry : (id, pending) = (1, ⟨⟨"t"⟩, ⟨1, 0, false, .renderer 0 1⟩⟩) :=
      List.mem_singleton.mp (Session.mem_of_pending? hPending)
    cases hEntry
    exact hContinues
  have hKnown : files.session.Known := by
    intro frame hFrame
    obtain rfl := List.mem_singleton.mp hFrame
    decide
  have hFiles : files.Continues 1 := ⟨_, rfl, trivial⟩
  obtain ⟨-, hNothing, -⟩ := pending_pump_cancelAll [.showTable ⟨"t"⟩]
  obtain ⟨-, -, hSomething⟩ := pending_pump_cancelAll
    [.start, .receive ⟨1, .next (.string "files-1")⟩]
  exact ⟨⟨hTable, hNothing hTable⟩, hKnown, hFiles, hSomething hKnown 1 hFiles⟩

/-- Giving up everything does not always leave nothing: the files that have been found when their
request is given up lead to a table that is asked for afterwards. -/
theorem not_forall_pump_cancelAll_empty :
    ¬ ∀ operations : List Operation,
      let last := ((opened fun _ => true).run operations).cancelAll.2.pump.2
      last.session.pending = [] ∧ last.session.progress.bars = [] := by
  intro hEmpty
  obtain ⟨hPending, -⟩ := hEmpty [.start, .receive ⟨1, .next (.string "files-1")⟩]
  have hLeft : ((opened fun _ => true).run
      [.start, .receive ⟨1, .next (.string "files-1")⟩]).cancelAll.2.pump.2.session.pending =
        [(2, ⟨⟨"files-1"⟩, ⟨2, 1, false, .tableLoader none⟩⟩)] := rfl
  rw [hLeft] at hPending
  cases hPending

end Page

end RemoteTable
