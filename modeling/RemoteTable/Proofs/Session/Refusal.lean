import RemoteTable.Proofs.Session.Replies

/-! Frames that the transport refuses. As long as the request of such a frame waits, a reply that the
client has made itself waits for it. -/

namespace RemoteTable

/-- An error or a cancellation, by which the client ends a request on its own. -/
def Reply.GivesUp : Reply → Prop
  | .next _ | .completed => False
  | .error _ | .cancelled => True

namespace Session

/-- An error or a cancellation waits for the request. -/
def GivenUp (session : Session) (id : Nat) : Prop :=
  ∃ reply ∈ repliesTo id session.queue, reply.GivesUp

/-- The frames of a request that were handed to the transport, the oldest first. -/
def attemptsFor (session : Session) (id : Nat) : List Attempt :=
  session.attempts.filter (·.frame.requestId == id)

/-- The first frame of the request goes to this object, and the further ones only give it up. -/
def Handed (session : Session) (id : Nat) (objectId : ObjectId) : Prop :=
  ∃ request cancellations, session.attemptsFor id = request :: cancellations ∧
    request.frame.objectId = objectId ∧
    ∀ attempt ∈ cancellations, attempt.frame = .cancellation id objectId

variable {session other : Session} {id : Nat}

/-- Replies that come in do not take back that a request is given up. -/
theorem GivenUp.mono (h : session.GivenUp id) (hQueue : session.queue ⊆ other.queue) :
    other.GivenUp id := by
  obtain ⟨reply, hReply, hGivesUp⟩ := h
  exact ⟨reply, mem_repliesTo.mpr (hQueue (mem_repliesTo.mp hReply)), hGivesUp⟩

/-- Nor does the handling of a reply, unless it is the one that gives the request up. -/
theorem GivenUp.of_head {frame : ReplyFrame} (h : session.GivenUp id)
    (hQueue : session.queue.head? = some frame)
    (hFrame : frame.requestId = id → ¬ frame.reply.GivesUp)
    (hRest : session.queue.tail ⊆ other.queue) : other.GivenUp id := by
  obtain ⟨reply, hReply, hGivesUp⟩ := h
  have hOther : frame.requestId = id → frame.reply ≠ reply := fun hOwn hSame =>
    hFrame hOwn (hSame ▸ hGivesUp)
  exact ⟨reply, mem_repliesTo_of_head hReply hQueue hOther hRest, hGivesUp⟩

theorem mem_attemptsFor {attempt : Attempt} :
    attempt ∈ session.attemptsFor id ↔
      attempt ∈ session.attempts ∧ attempt.frame.requestId = id := by
  simp [attemptsFor]

section Attempt

variable {attempt : Attempt} (hAttempts : other.attempts = session.attempts ++ [attempt])

include hAttempts

theorem attemptsFor_concat_self (hOwn : attempt.frame.requestId = id) :
    other.attemptsFor id = session.attemptsFor id ++ [attempt] := by
  rw [attemptsFor, hAttempts, List.filter_append, List.filter_cons_of_pos (by simp [hOwn])]
  rfl

theorem attemptsFor_concat_of_ne (hOther : attempt.frame.requestId ≠ id) :
    other.attemptsFor id = session.attemptsFor id := by
  rw [attemptsFor, hAttempts, List.filter_append, List.filter_cons_of_neg (by simp [hOther])]
  exact List.append_nil _

end Attempt

theorem Handed.mem {objectId : ObjectId} (h : session.Handed id objectId) :
    ∃ attempt ∈ session.attempts, attempt.frame.requestId = id := by
  obtain ⟨request, cancellations, hFrames, -, -⟩ := h
  exact ⟨request, mem_attemptsFor.mp (hFrames ▸ List.mem_cons_self)⟩

/-- A further frame leaves the request handed to the transport, unless it asks for something else. -/
theorem Handed.concat {objectId : ObjectId} (h : session.Handed id objectId) {attempt : Attempt}
    (hAttempts : other.attempts = session.attempts ++ [attempt])
    (hOwn : attempt.frame.requestId = id → attempt.frame = .cancellation id objectId) :
    other.Handed id objectId := by
  obtain ⟨request, cancellations, hFrames, hObject, hCancels⟩ := h
  by_cases hId : attempt.frame.requestId = id
  · refine ⟨request, cancellations ++ [attempt], ?_, hObject, fun later hLater => ?_⟩
    · rw [attemptsFor_concat_self hAttempts hId, hFrames, List.cons_append]
    · rcases List.mem_append.mp hLater with hOld | hNew
      · exact hCancels later hOld
      · obtain rfl := List.mem_singleton.mp hNew
        exact hOwn hId
  · refine ⟨request, cancellations, ?_, hObject, hCancels⟩
    rw [attemptsFor_concat_of_ne hAttempts hId, hFrames]

/-- The cancellation of a request that waits is one attempt. -/
theorem attempts_cancel_of_pending {pending : Pending}
    (hPending : session.pending? id = some pending) :
    (session.cancel id).2.attempts = session.attempts ++
      [⟨.cancellation id pending.objectId, session.accepts session.attempts.length⟩] := by
  simp [cancel, hPending, transmit, enqueue]

/-- Cancelling a request that does not wait does nothing. -/
theorem snd_cancel_of_none (hNone : session.pending? id = none) :
    (session.cancel id).2 = session := by
  simp [cancel, hNone]

/-- A request that is cancelled sees it, whether the transport takes the frame or not. -/
theorem givenUp_cancel (hWaits : (session.pending? id).isSome) :
    (session.cancel id).2.GivenUp id :=
  ⟨.cancelled, cancelled_mem_repliesTo hWaits, trivial⟩

/-- The frame of the next request, with what the transport makes of it. -/
def nextAttempt (session : Session) (call : Call) : Attempt :=
  ⟨⟨session.nextRequestId, call.objectId, call.method, call.arguments⟩,
    session.accepts session.attempts.length⟩

/-- A request is one attempt, whether the transport takes it or not. -/
theorem attempts_invoke (session : Session) (call : Call) (observer : Observer) :
    (session.invoke call observer).2.attempts =
      session.attempts ++ [session.nextAttempt call] := by
  rw [snd_invoke]
  rfl

/-- A request that the transport refuses sees an error. -/
theorem givenUp_invoke {call : Call} (hRefused : (session.nextAttempt call).accepted = false)
    (observer : Observer) : (session.invoke call observer).2.GivenUp session.nextRequestId := by
  have hQueue : (session.invoke call observer).2.queue = session.queue ++
      [⟨session.nextRequestId, .error ClientError.connectionClosed.message⟩] := by
    have hAccepts : session.accepts session.attempts.length = false := hRefused
    rw [snd_invoke, hAccepts]
    rfl
  refine ⟨.error ClientError.connectionClosed.message, mem_repliesTo.mpr ?_, trivial⟩
  rw [hQueue]
  exact List.mem_append_right _ (List.mem_singleton_self _)

/-- Each request that waits was handed to the transport, and nothing but cancellations of it
afterwards. If any of these frames has been refused, the request has been given up. -/
structure Accounted (session : Session) : Prop where
  positive : 1 ≤ session.nextRequestId
  numbered : ∀ attempt ∈ session.attempts,
    1 ≤ attempt.frame.requestId ∧ attempt.frame.requestId < session.nextRequestId
  handed : ∀ id pending, session.pending? id = some pending → session.Handed id pending.objectId
  refused : ∀ attempt ∈ session.attempts, attempt.accepted = false →
    (session.pending? attempt.frame.requestId).isSome →
    session.GivenUp attempt.frame.requestId

namespace Accounted

theorem fresh (accepts : Nat → Bool) : (Session.fresh.setAccepts accepts).Accounted where
  positive := Nat.le_refl 1
  numbered _ hAttempt := absurd hAttempt List.not_mem_nil
  handed _ _ hPending := nomatch hPending
  refused _ hAttempt := absurd hAttempt List.not_mem_nil

/-- Whoever waits has been given a number, and numbers begin at one. -/
theorem issued (h : session.Accounted) {pending : Pending}
    (hPending : session.pending? id = some pending) : 1 ≤ id ∧ id < session.nextRequestId := by
  obtain ⟨attempt, hAttempt, rfl⟩ := (h.handed id pending hPending).mem
  exact h.numbered attempt hAttempt

theorem pending?_next (h : session.Accounted) : session.pending? session.nextRequestId = none := by
  cases hNext : session.pending? session.nextRequestId with
  | none => rfl
  | some pending => exact absurd (h.issued hNext).2 (Nat.lt_irrefl _)

/-- No frame of the next request has been handed over. -/
theorem attemptsFor_next (h : session.Accounted) :
    session.attemptsFor session.nextRequestId = [] := by
  rw [List.eq_nil_iff_forall_not_mem]
  intro attempt hAttempt
  obtain ⟨hMem, hOwn⟩ := mem_attemptsFor.mp hAttempt
  exact Nat.ne_of_lt (h.numbered attempt hMem).2 hOwn

/-- Nothing has been handed to the transport, and the requests that still wait have waited
before. -/
theorem of_left (h : session.Accounted) (hAttempts : other.attempts = session.attempts)
    (hNext : other.nextRequestId = session.nextRequestId)
    (hPending : ∀ id pending, other.pending? id = some pending →
      ∃ old, session.pending? id = some old ∧ old.objectId = pending.objectId)
    (hGivenUp : ∀ id, (other.pending? id).isSome → session.GivenUp id → other.GivenUp id) :
    other.Accounted where
  positive := hNext.symm ▸ h.positive
  numbered := by
    rw [hAttempts, hNext]
    exact h.numbered
  handed id pending hWaits := by
    obtain ⟨old, hOld, hObject⟩ := hPending id pending hWaits
    rw [Handed, attemptsFor, hAttempts, ← hObject]
    exact h.handed id old hOld
  refused attempt hAttempt hRefused hWaits := by
    rw [hAttempts] at hAttempt
    obtain ⟨pending, hStill⟩ := Option.isSome_iff_exists.mp hWaits
    obtain ⟨old, hOld, -⟩ := hPending _ pending hStill
    have hBefore : (session.pending? attempt.frame.requestId).isSome := by
      rw [hOld]
      rfl
    exact hGivenUp _ hWaits (h.refused attempt hAttempt hRefused hBefore)

theorem of_queue (h : session.Accounted) (hAttempts : other.attempts = session.attempts)
    (hNext : other.nextRequestId = session.nextRequestId)
    (hPending : other.pending = session.pending) (hQueue : session.queue ⊆ other.queue) :
    other.Accounted := by
  refine h.of_left hAttempts hNext (fun id pending hWaits => ⟨pending, ?_, rfl⟩)
    fun id _ hGivenUp => hGivenUp.mono hQueue
  rw [← hWaits, pending?, pending?, hPending]

/-- One more frame has been handed to the transport. If it has been refused, and its request waits, the
request has been given up. -/
theorem of_handed (h : session.Accounted) {attempt : Attempt}
    (hAttempts : other.attempts = session.attempts ++ [attempt])
    (hNext : session.nextRequestId ≤ other.nextRequestId)
    (hNumber : 1 ≤ attempt.frame.requestId ∧ attempt.frame.requestId < other.nextRequestId)
    (hQueue : session.queue ⊆ other.queue)
    (hOld : ∀ id < session.nextRequestId, other.pending? id = session.pending? id)
    (hHanded : ∀ id pending, other.pending? id = some pending → other.Handed id pending.objectId)
    (hRefused : attempt.accepted = false → (other.pending? attempt.frame.requestId).isSome →
      other.GivenUp attempt.frame.requestId) : other.Accounted where
  positive := Nat.le_trans h.positive hNext
  numbered earlier hEarlier := by
    rw [hAttempts] at hEarlier
    rcases List.mem_append.mp hEarlier with hBefore | hNew
    · obtain ⟨hFirst, hBelow⟩ := h.numbered earlier hBefore
      exact ⟨hFirst, Nat.lt_of_lt_of_le hBelow hNext⟩
    · obtain rfl := List.mem_singleton.mp hNew
      exact hNumber
  handed := hHanded
  refused earlier hEarlier hFailed hWaits := by
    rw [hAttempts] at hEarlier
    rcases List.mem_append.mp hEarlier with hBefore | hNew
    · rw [hOld _ (h.numbered earlier hBefore).2] at hWaits
      exact (h.refused earlier hBefore hFailed hWaits).mono hQueue
    · obtain rfl := List.mem_singleton.mp hNew
      exact hRefused hFailed hWaits

/-- Whether the cancellation is refused or not, its request is given up. -/
theorem cancel (h : session.Accounted) (id : Nat) : (session.cancel id).2.Accounted := by
  cases hFound : session.pending? id with
  | none => rwa [snd_cancel_of_none hFound]
  | some pending =>
      have hStill : ∀ key, (session.cancel id).2.pending? key = session.pending? key := by
        intro key
        rw [pending?, pending_cancel, pending?]
      have hAttempts := attempts_cancel_of_pending hFound
      have hNext : (session.cancel id).2.nextRequestId = session.nextRequestId :=
        nextRequestId_cancel session id
      refine h.of_handed hAttempts (Nat.le_of_eq hNext.symm) ?_
        (Quiet.refl.cancel id).queue_grows.subset (fun key _ => hStill key)
        (fun key waiting hWaits => ?_) fun _ hWaits => ?_
      · rw [hNext]
        exact h.issued hFound
      · rw [hStill] at hWaits
        refine (h.handed key waiting hWaits).concat hAttempts fun hOwn => ?_
        obtain rfl : id = key := hOwn
        cases hFound.symm.trans hWaits
        rfl
      · rw [hStill] at hWaits
        exact givenUp_cancel hWaits

/-- If a new request is refused, an error waits for it at once. -/
theorem invoke (h : session.Accounted) (call : Call) (observer : Observer) :
    (session.invoke call observer).2.Accounted := by
  have hWaiting := pending?_invoke call observer h.pending?_next
  have hAttempts := session.attempts_invoke call observer
  have hOwn : (session.nextAttempt call).frame.requestId = session.nextRequestId := rfl
  have hNext : (session.invoke call observer).2.nextRequestId = session.nextRequestId + 1 :=
    nextRequestId_invoke session call observer
  refine h.of_handed hAttempts (hNext ▸ Nat.le_succ _) ?_
    (Uses.issue .refl call observer).queue_grows.subset (fun id hBelow => ?_)
    (fun id pending hWaits => ?_) fun hRefused _ => givenUp_invoke hRefused observer
  · rw [hNext, hOwn]
    exact ⟨h.positive, Nat.lt_succ_self _⟩
  · rw [hWaiting, if_neg (Nat.ne_of_lt hBelow)]
  · rw [hWaiting] at hWaits
    by_cases hId : id = session.nextRequestId
    · rw [if_pos hId] at hWaits
      cases hWaits
      subst hId
      refine ⟨session.nextAttempt call, [], ?_, rfl, by nofun⟩
      rw [attemptsFor_concat_self hAttempts hOwn, h.attemptsFor_next]
      rfl
    · rw [if_neg hId] at hWaits
      exact (h.handed id pending hWaits).concat hAttempts fun hSame => absurd hSame.symm hId

/-- A refused cancellation gives up a request that is being given up anyway. -/
theorem quiet (h : session.Accounted) (hQuiet : session.Quiet other) : other.Accounted := by
  induction hQuiet with
  | refl => exact h
  | cancel _ id ih => exact ih.cancel id
  | report _ message ih => exact ih.of_queue rfl rfl rfl (List.Subset.refl _)

/-- A refused request is given up by the error that waits for it. -/
theorem uses (h : session.Accounted) (hUses : session.Uses other) : other.Accounted := by
  cases hUses with
  | quiet hQuiet => exact h.quiet hQuiet
  | issue hQuiet call observer => exact (h.quiet hQuiet).invoke call observer

end Accounted

end Session

end RemoteTable
