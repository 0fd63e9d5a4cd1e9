import RemoteTable.Proofs.Page.Balance
import RemoteTable.Proofs.Session.Replies

/-! Working off the queue. Each reply that is handled leaves less to be done, although receivers may
put further replies into the queue and register further requests: so the queue is empty in the end,
and no request is left for which a terminal reply was waiting. -/

namespace RemoteTable

namespace Session

/-- How many further replies the requests that wait can still put into the queue. -/
def outstanding (entries : List (Nat × Pending)) : Nat :=
  entries.foldr (fun entry rest => entry.2.receiver.observer.weight + rest) 0

theorem outstanding_append (first second : List (Nat × Pending)) :
    outstanding (first ++ second) = outstanding first + outstanding second := by
  induction first with
  | nil => simp [outstanding]
  | cons entry rest ih =>
      simp only [outstanding, List.cons_append, List.foldr_cons] at ih ⊢
      omega

theorem outstanding_singleton (entry : Nat × Pending) :
    outstanding [entry] = entry.2.receiver.observer.weight := rfl

theorem outstanding_eq_zero {entries : List (Nat × Pending)}
    (h : ∀ entry ∈ entries, entry.2.receiver.observer.weight = 0) : outstanding entries = 0 := by
  induction entries with
  | nil => rfl
  | cons entry rest ih =>
      obtain ⟨hFirst, hRest⟩ := List.forall_mem_cons.mp h
      have hOthers := ih hRest
      simp only [outstanding, List.foldr_cons] at hOthers ⊢
      omega

/-- A request that is taken out takes its replies along. -/
theorem outstanding_eraseP {entries : List (Nat × Pending)} {id : Nat} {pending : Pending}
    (hPending : entries.lookup id = some pending) :
    outstanding (entries.eraseP (·.1 == id)) + pending.receiver.observer.weight =
      outstanding entries := by
  induction entries with
  | nil => cases hPending
  | cons head rest ih =>
      obtain ⟨key, value⟩ := head
      by_cases hHead : key = id
      · subst hHead
        rw [List.lookup_cons_self, Option.some.injEq] at hPending
        subst hPending
        rw [List.eraseP_cons_of_pos (by simp), Nat.add_comm]
        rfl
      · rw [List.lookup_cons, beq_eq_false_iff_ne.mpr (Ne.symm hHead)] at hPending
        have hRest := ih hPending
        rw [List.eraseP_cons_of_neg (by simp [hHead])]
        simp only [outstanding, List.foldr_cons] at hRest ⊢
        omega

theorem outstanding_unregister {session : Session} {id : Nat} {pending : Pending}
    (hPending : session.pending? id = some pending) :
    outstanding (session.unregister id).pending + pending.receiver.observer.weight =
      outstanding session.pending :=
  outstanding_eraseP hPending

/-- A cancellation puts one reply into the queue at most. -/
theorem length_queue_cancel_le (session : Session) (id : Nat) :
    (session.cancel id).2.queue.length ≤ session.queue.length + 1 := by
  rw [queue_cancel, List.length_append]
  split <;> simp

end Session

/-- Collecting adds nothing to what an observer can still cause. -/
theorem Observer.weight_collect (observer : Observer) (payload : Payload) :
    (observer.collect payload).weight = observer.weight := by
  unfold collect
  split <;> rfl

namespace Page

open Session

/-- The bound counts what waits and what the waiting requests can still add. -/
theorem pumpBound_eq (page : Page) :
    page.pumpBound = outstanding page.session.pending + page.session.queue.length := by
  unfold pumpBound outstanding
  induction page.session.pending with
  | nil => simp
  | cons entry rest ih =>
      simp only [List.foldr_cons, ih]
      omega

/-- A further request adds its own weight, and the reply to it if it is refused. -/
theorem pumpBound_invoke_le (page : Page) (call : Call) (observer : Observer) :
    (page.invoke call observer).2.pumpBound ≤ page.pumpBound + observer.weight + 1 := by
  have hSession : (page.invoke call observer).2.session =
      (page.session.invoke call observer).2 := rfl
  rw [pumpBound_eq, pumpBound_eq, hSession, snd_invoke]
  simp only [outstanding_append, outstanding_singleton, List.length_append, newReceiver]
  split <;> simp <;> omega

/-- A new view gives up one request. -/
theorem pumpBound_newView_le (page : Page) (tableId : ObjectId) :
    (page.newView tableId).pumpBound ≤ page.pumpBound + 1 := by
  have hPending : (page.newView tableId).session.pending = page.session.pending :=
    (page.quiet_newView tableId).session.pending_eq
  have hQueue : (page.newView tableId).session.queue.length ≤ page.session.queue.length + 1 := by
    simp only [newView, setView, withView]
    split
    · exact Nat.le_succ _
    · unfold View.cancelInFlight
      split
      · exact Nat.le_succ _
      · exact length_queue_cancel_le _ _
  rw [pumpBound_eq, pumpBound_eq, hPending]
  omega

/-- A new view has nothing in flight that it could give up. -/
theorem pumpBound_showTable_le (page : Page) (tableId : ObjectId) :
    (page.showTable tableId).pumpBound ≤ page.pumpBound + 2 := by
  have hAsking := pumpBound_invoke_le (page.newView tableId) (.bare tableId "getSchema")
    (.renderer page.nextSerial 1)
  have hNew := page.pumpBound_newView_le tableId
  have hSame : (page.showTable tableId).pumpBound =
      ((page.newView tableId).invoke (.bare tableId "getSchema")
        (.renderer page.nextSerial 1)).2.pumpBound := rfl
  rw [hSame]
  simp only [Observer.weight] at hAsking
  omega

/-- The end of a request puts at most as many replies into the queue as its weight says, those of
the requests it issues included. -/
theorem pumpBound_onCompleted_le (page : Page) (observer : Observer) :
    (observer.onCompleted page).pumpBound ≤ page.pumpBound + observer.weight := by
  unfold Observer.onCompleted
  split
  · exact page.pumpBound_invoke_le _ _
  · exact page.pumpBound_showTable_le _
  · exact Nat.le_add_right _ _
  · split <;> exact Nat.le_add_right _ _
  all_goals exact Nat.le_add_right _ _

section Turn

variable {page next : Page}

/-- Handling a reply lowers the bound. -/
theorem pumpBound_turn_lt (h : page.session.Balanced) (hTurn : Turn page next)
    (hQueue : page.session.queue ≠ []) : next.pumpBound < page.pumpBound := by
  have hTail : page.session.queue.tail.length + 1 = page.session.queue.length := by
    rw [List.length_tail]
    have hPositive := List.length_pos_iff.mpr hQueue
    omega
  rw [page.pumpBound_eq]
  cases hTurn with
  | idle hEmpty => exact absurd hEmpty hQueue
  | unknown _ _ =>
      have hPopped : page.popped.pumpBound =
          outstanding page.session.pending + page.session.queue.tail.length :=
        page.popped.pumpBound_eq
      omega
  | @accepted id result pending done payload _ hPending hDecodes =>
      have hRest := outstanding_unregister hPending
      have hResumed : (resume pending.objectId id (pending.receiver.accept done payload
          (page.popped.withdrawn id))).pumpBound =
          outstanding (page.session.unregister id).pending +
            pending.receiver.observer.weight + page.session.queue.tail.length := by
        rw [pumpBound_eq, queue_resume, session_resume, register, Receiver.pending_progressed,
          outstanding_append, outstanding_singleton, Observer.weight_collect]
        rfl
      omega
  | @ended frame pending error _ hPending hEnds =>
      have hRest := outstanding_unregister hPending
      have hLast := pumpBound_onCompleted_le
        (page.concluded frame.requestId pending.receiver error) pending.receiver.observer
      have hConcluded : (page.concluded frame.requestId pending.receiver error).pumpBound =
          outstanding (page.session.unregister frame.requestId).pending +
            page.session.queue.tail.length := pumpBound_eq _
      rw [finish_eq_onCompleted h hPending]
      omega

/-- The reply that is handled is taken from the queue, and further ones may be put behind. -/
theorem queue_turn (h : page.session.Balanced) (hTurn : Turn page next) :
    page.session.queue.tail <+: next.session.queue := by
  cases hTurn with
  | idle hEmpty =>
      rw [hEmpty]
      exact List.nil_prefix
  | unknown => exact List.prefix_rfl
  | @accepted id result pending done payload _ hPending hDecodes =>
      rw [queue_resume]
      exact List.prefix_rfl
  | @ended frame pending error _ hPending hEnds =>
      exact (uses_finish_concluded h hPending error).queue_grows

/-- A request with a terminal reply in the queue ends with it, or earlier. -/
theorem ending_turn (h : page.session.Balanced) (hTurn : Turn page next) {id : Nat}
    (hEnding : page.session.Ending id) :
    next.session.pending? id = none ∨ next.session.Ending id := by
  have hRest := (queue_turn h hTurn).subset
  cases hTurn with
  | idle => exact Or.inr hEnding
  | @unknown frame hQueue hUnknown =>
      by_cases hOwn : frame.requestId = id
      · subst hOwn
        exact Or.inl hUnknown
      · exact Or.inr (hEnding.of_head hQueue (fun hSame => absurd hSame hOwn) hRest)
  | accepted hQueue _ _ => exact Or.inr (hEnding.of_head hQueue (fun _ hTerminal => hTerminal) hRest)
  | @ended frame pending error hQueue hPending _ =>
      by_cases hOwn : frame.requestId = id
      · subst hOwn
        exact Or.inl (pending?_finish_self h hPending error)
      · exact Or.inr (hEnding.of_head hQueue (fun hSame => absurd hSame hOwn) hRest)

end Turn

/-- The queue is empty after as many turns as the bound says. -/
theorem queue_run_of_le {page : Page} (h : page.session.Balanced) {count : Nat}
    (hBound : page.pumpBound ≤ count) :
    (page.run (List.replicate count .handleNext)).session.queue = [] := by
  induction count generalizing page with
  | zero =>
      rw [pumpBound_eq] at hBound
      have hEmpty : page.session.queue.length = 0 := by omega
      exact List.length_eq_zero_iff.mp hEmpty
  | succ count ih =>
      by_cases hQueue : page.session.queue = []
      · rw [page.run_handleNext_of_empty hQueue]
        exact hQueue
      · have hTurn := turn_of_balanced h
        have hLess := pumpBound_turn_lt h hTurn hQueue
        exact ih (balanced_turn h hTurn) (by omega)

/-- Working off the queue keeps requests and bars in balance. -/
theorem balanced_pump {page : Page} (h : page.session.Balanced) :
    page.pump.2.session.Balanced := by
  rw [pump_eq_run]
  exact balanced_run h _

/-- What every turn keeps is kept while the queue is worked off. -/
theorem pump_keeps (motive : Page → Prop)
    (hKeeps : ∀ {page next : Page}, page.session.Balanced → Turn page next → motive page →
      motive next)
    {page : Page} (h : page.session.Balanced) (hStart : motive page) : motive page.pump.2 := by
  rw [pump_eq_run]
  induction page.pumpBound generalizing page with
  | zero => exact hStart
  | succ count ih =>
      have hTurn := turn_of_balanced h
      exact ih (balanced_turn h hTurn) (hKeeps h hTurn hStart)

/-- The bound is large enough: nothing is left in the queue. -/
theorem queue_pump {page : Page} (h : page.session.Balanced) : page.pump.2.session.queue = [] := by
  rw [pump_eq_run]
  exact queue_run_of_le h (Nat.le_refl _)

/-- The page with other replies in its queue. -/
def withQueue (page : Page) (queue : List ReplyFrame) : Page :=
  { page with session := { page.session with queue := queue } }

end Page

end RemoteTable
