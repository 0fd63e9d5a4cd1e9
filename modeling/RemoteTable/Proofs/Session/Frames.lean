import Mathlib.Logic.Relation
import RemoteTable.Proofs.Session.Awaiting
import RemoteTable.Proofs.Session.Refusal

/-! The frames that a session hands to the transport. Requests are numbered one after the other, and
only a request that waits is given up, after it has been handed over itself. -/

namespace RemoteTable

theorem Request.isCancel_iff {frame : Request} : frame.isCancel = true ↔ frame.method = cancelMethod :=
  beq_iff_eq

/-- The methods by which a view asks for the rows of its table. -/
def IsRowMethod (method : String) : Prop := method = "getSchema" ∨ method = "getTableView"

/-- The observer shows rows. -/
def Observer.Renders (observer : Observer) : Prop :=
  ∃ serial generation, observer = .renderer serial generation

/-- The same request, whatever its observer has collected since. -/
structure Pending.Continues (old pending : Pending) : Prop where
  objectId : pending.objectId = old.objectId
  finished : pending.receiver.finished = old.receiver.finished
  renders : pending.receiver.observer.Renders ↔ old.receiver.observer.Renders

theorem Pending.Continues.refl (pending : Pending) : pending.Continues pending := ⟨rfl, rfl, Iff.rfl⟩

/-- Collecting does not change what a request is. -/
theorem Pending.continues_collect (pending : Pending) (payload : Payload) :
    pending.Continues ⟨pending.objectId,
      { pending.receiver with observer := pending.receiver.observer.collect payload }⟩ where
  objectId := rfl
  finished := rfl
  renders := by simp only [Observer.Renders, Observer.collect_eq_renderer_iff]

namespace Session

/-- The frames handed to the transport, the oldest first. -/
def frames (session : Session) : List Request := session.attempts.map Attempt.frame

/-- The frames that ask for something, the oldest first. -/
def requests (session : Session) : List Request := session.frames.filter (!·.isCancel)

/-- What is done to a session: errors are reported, and requests are given up and issued. Rows are asked
for by views alone. -/
inductive Act (session : Session) : Session → Prop where
  | report (message : String) : Act session (session.reportError message)
  | cancel (id : Nat) : Act session (session.cancel id).2
  | invoke {call : Call} {observer : Observer} (hMethod : call.method ≠ Request.cancelMethod)
      (hRows : IsRowMethod call.method ↔ observer.Renders) :
      Act session (session.invoke call observer).2

/-- Any number of acts, one after the other. -/
abbrev Acts : Session → Session → Prop := Relation.ReflTransGen Act

/-- The requests are numbered from one on, and each request that waits is one of them. -/
structure Orderly (session : Session) : Prop where
  numbered : session.requests.map Request.requestId = List.range' 1 session.requests.length
  next : session.nextRequestId = session.requests.length + 1
  waiting : ∀ id pending, session.pending? id = some pending → pending.receiver.finished = false ∧
    ∃ request ∈ session.requests, request.requestId = id ∧ request.objectId = pending.objectId ∧
      (IsRowMethod request.method ↔ pending.receiver.observer.Renders)

/-- These frames were handed over in between. Each cancellation among them is of a request that has
been handed over before, and that still waits afterwards. -/
structure Hands (session other : Session) (handed : List Request) : Prop where
  frames_eq : other.frames = session.frames ++ handed
  cancels : ∀ earlier frame later, handed = earlier ++ frame :: later → frame.isCancel = true →
    frame.arguments = .null ∧
    (∃ request ∈ session.frames ++ earlier, request.isCancel = false ∧
      request.requestId = frame.requestId ∧ request.objectId = frame.objectId) ∧
    ∃ receiver, other.pending? frame.requestId = some ⟨frame.objectId, receiver⟩ ∧
      receiver.finished = false

variable {session other : Session}

theorem requests_of_attempts_eq (hAttempts : other.attempts = session.attempts) :
    other.requests = session.requests := by
  rw [requests, frames, hAttempts, requests, frames]

/-- A request hands over one frame, also if it is refused. -/
theorem frames_invoke (session : Session) (call : Call) (observer : Observer) :
    (session.invoke call observer).2.frames =
      session.frames ++ [(session.nextAttempt call).frame] := by
  rw [frames, attempts_invoke, List.map_append]
  rfl

/-- A request that waits is given up by one frame. -/
theorem frames_cancel {id : Nat} {pending : Pending}
    (hPending : session.pending? id = some pending) :
    (session.cancel id).2.frames =
      session.frames ++ [.cancellation id pending.objectId] := by
  rw [frames, attempts_cancel_of_pending hPending, List.map_append]
  rfl

/-- Cancellations ask for nothing. -/
theorem requests_cancel (session : Session) (id : Nat) :
    (session.cancel id).2.requests = session.requests := by
  cases hPending : session.pending? id with
  | none => rw [snd_cancel_of_none hPending]
  | some pending =>
      rw [requests, frames_cancel hPending, List.filter_append]
      exact List.append_nil _

theorem Quiet.requests_eq (h : session.Quiet other) : other.requests = session.requests := by
  induction h with
  | refl => rfl
  | cancel _ id ih => rw [requests_cancel, ih]
  | report _ message ih => exact ih

/-- A request is handed over with the next number. -/
theorem requests_invoke (session : Session) {call : Call}
    (hMethod : call.method ≠ Request.cancelMethod) (observer : Observer) :
    (session.invoke call observer).2.requests =
      session.requests ++ [(session.nextAttempt call).frame] := by
  have hRequest : (session.nextAttempt call).frame.isCancel = false :=
    Bool.eq_false_iff.mpr fun hCancel => hMethod (Request.isCancel_iff.mp hCancel)
  rw [requests, frames_invoke, List.filter_append, List.filter_cons_of_pos (by simp [hRequest])]
  rfl

namespace Orderly

theorem fresh (accepts : Nat → Bool) : (Session.fresh.setAccepts accepts).Orderly where
  numbered := rfl
  next := rfl
  waiting := nofun

/-- Nothing has been handed over, and the requests that still wait have waited before. -/
theorem of_left (h : session.Orderly) (hAttempts : other.attempts = session.attempts)
    (hNext : other.nextRequestId = session.nextRequestId)
    (hPending : ∀ id pending, other.pending? id = some pending →
      ∃ old, session.pending? id = some old ∧ old.Continues pending) : other.Orderly := by
  have hRequests := requests_of_attempts_eq hAttempts
  refine ⟨hRequests ▸ h.numbered, hNext.trans (hRequests ▸ h.next), fun id pending hWaits => ?_⟩
  obtain ⟨old, hOld, hContinues⟩ := hPending id pending hWaits
  rw [hRequests, hContinues.finished, hContinues.objectId, hContinues.renders]
  exact h.waiting id old hOld

/-- Some requests wait no longer. -/
theorem of_subset (h : session.Orderly) (hAttempts : other.attempts = session.attempts)
    (hNext : other.nextRequestId = session.nextRequestId)
    (hPending : ∀ id pending, other.pending? id = some pending →
      session.pending? id = some pending) : other.Orderly :=
  h.of_left hAttempts hNext fun id pending hWaits => ⟨pending, hPending id pending hWaits, .refl _⟩

/-- A request is known by its number. -/
theorem request_eq (h : session.Orderly) {first second : Request} (hFirst : first ∈ session.requests)
    (hSecond : second ∈ session.requests) (hSame : first.requestId = second.requestId) :
    first = second := by
  have hNumbers : (session.requests.map Request.requestId).Nodup := by
    rw [h.numbered]
    exact List.nodup_range'
  exact eq_of_key_eq hNumbers hFirst hSecond hSame

/-- Whoever waits has been given a number. -/
theorem issued (h : session.Orderly) {id : Nat} {pending : Pending}
    (hPending : session.pending? id = some pending) : id < session.nextRequestId := by
  obtain ⟨-, request, hRequest, rfl, -⟩ := h.waiting id pending hPending
  have hNumber : request.requestId ∈ session.requests.map Request.requestId :=
    List.mem_map_of_mem hRequest
  rw [h.numbered, List.mem_range'_1] at hNumber
  rw [h.next]
  omega

/-- No request waits under the next number. -/
theorem pending?_next (h : session.Orderly) : session.pending? session.nextRequestId = none := by
  cases hNext : session.pending? session.nextRequestId with
  | none => rfl
  | some pending => exact absurd (h.issued hNext) (Nat.lt_irrefl _)

/-- A request takes the next number, and waits under it. -/
theorem invoke (h : session.Orderly) {call : Call} {observer : Observer}
    (hMethod : call.method ≠ Request.cancelMethod)
    (hRows : IsRowMethod call.method ↔ observer.Renders) :
    (session.invoke call observer).2.Orderly := by
  have hRequests := session.requests_invoke hMethod observer
  have hOwn : (session.nextAttempt call).frame.requestId = session.nextRequestId := rfl
  refine ⟨?_, ?_, fun id pending hWaits => ?_⟩
  · rw [hRequests, List.map_append, h.numbered, List.map_singleton, hOwn, h.next,
      List.length_append, List.length_singleton, List.range'_concat]
    simp [Nat.add_comm]
  · rw [nextRequestId_invoke, hRequests, List.length_append, h.next, List.length_singleton]
  · rw [hRequests]
    rw [pending?_invoke call observer h.pending?_next] at hWaits
    split at hWaits
    · rename_i hNew
      cases hWaits
      exact ⟨rfl, _, List.mem_append_right _ (List.mem_singleton_self _), hNew.symm, rfl, hRows⟩
    · obtain ⟨hActive, request, hRequest, hSame⟩ := h.waiting id pending hWaits
      exact ⟨hActive, request, List.mem_append_left _ hRequest, hSame⟩

theorem act (h : session.Orderly) (hAct : session.Act other) : other.Orderly := by
  cases hAct with
  | report message => exact h.of_subset rfl rfl fun _ _ hWaits => hWaits
  | cancel id =>
      have hRequests := session.requests_cancel id
      refine ⟨hRequests ▸ h.numbered, ?_, ?_⟩
      · rw [nextRequestId_cancel, hRequests, h.next]
      · rw [hRequests]
        intro key pending hWaits
        rw [pending?, pending_cancel] at hWaits
        exact h.waiting key pending hWaits
  | invoke hMethod hRows => exact h.invoke hMethod hRows

/-- Whatever is done to a session keeps the numbers in order. -/
theorem acts (h : session.Orderly) (hActs : session.Acts other) : other.Orderly := by
  induction hActs with
  | refl => exact h
  | tail _ hAct ih => exact ih.act hAct

end Orderly

namespace Hands

/-- One more frame, which is no cancellation, or gives up a request that waits. -/
theorem concat {third : Session} {handed : List Request} {frame : Request}
    (h : session.Hands other handed) (hFrames : third.frames = other.frames ++ [frame])
    (hPending : ∀ id pending, other.pending? id = some pending → third.pending? id = some pending)
    (hCancel : frame.isCancel = true → frame.arguments = .null ∧
      (∃ request ∈ other.frames, request.isCancel = false ∧
        request.requestId = frame.requestId ∧ request.objectId = frame.objectId) ∧
      ∃ receiver, other.pending? frame.requestId = some ⟨frame.objectId, receiver⟩ ∧
        receiver.finished = false) :
    session.Hands third (handed ++ [frame]) where
  frames_eq := by rw [hFrames, h.frames_eq, List.append_assoc]
  cancels earlier given later hSplit hGiven := by
    have hStill : ∀ {given : Request}, (∃ receiver, other.pending? given.requestId =
        some ⟨given.objectId, receiver⟩ ∧ receiver.finished = false) →
        ∃ receiver, third.pending? given.requestId = some ⟨given.objectId, receiver⟩ ∧
          receiver.finished = false := by
      rintro given ⟨receiver, hWaits, hActive⟩
      exact ⟨receiver, hPending _ _ hWaits, hActive⟩
    rcases List.eq_nil_or_concat later with rfl | ⟨front, last, rfl⟩
    · obtain ⟨rfl, hSame⟩ := List.append_inj' hSplit rfl
      cases hSame
      obtain ⟨hArguments, hRequest, hWaits⟩ := hCancel hGiven
      exact ⟨hArguments, h.frames_eq ▸ hRequest, hStill hWaits⟩
    · have hFront : handed = earlier ++ given :: front := by
        rw [List.concat_eq_append, ← List.cons_append, ← List.append_assoc] at hSplit
        exact (List.append_inj' hSplit rfl).1
      obtain ⟨hArguments, hRequest, hWaits⟩ := h.cancels earlier given front hFront hGiven
      exact ⟨hArguments, hRequest, hStill hWaits⟩

theorem act {third : Session} {handed : List Request} (h : session.Hands other handed)
    (hOrderly : other.Orderly) (hAct : other.Act third) :
    ∃ more, session.Hands third more := by
  cases hAct with
  | report message => exact ⟨handed, h.frames_eq, h.cancels⟩
  | cancel id =>
      cases hFound : other.pending? id with
      | none =>
          rw [snd_cancel_of_none hFound]
          exact ⟨handed, h⟩
      | some pending =>
          refine ⟨_, h.concat (frames_cancel hFound) (fun key waiting hWaits => ?_) fun _ => ?_⟩
          · rwa [pending?, pending_cancel]
          · obtain ⟨hActive, request, hRequest, hId, hObject, -⟩ := hOrderly.waiting id pending hFound
            obtain ⟨hHanded, hAsks⟩ := List.mem_filter.mp hRequest
            exact ⟨rfl, ⟨request, hHanded, by simpa using hAsks, hId, hObject⟩,
              pending.receiver, hFound, hActive⟩
  | @invoke call observer hMethod hRows =>
      refine ⟨_, h.concat (frames_invoke _ _ _) (fun id pending hWaits => ?_) fun hCancel => ?_⟩
      · rw [pending?_invoke call observer hOrderly.pending?_next,
          if_neg (Nat.ne_of_lt (hOrderly.issued hWaits))]
        exact hWaits
      · exact absurd (Request.isCancel_iff.mp hCancel) hMethod

end Hands

/-- Whatever is done to an orderly session, what is handed over on the way is in order. -/
theorem Orderly.exists_hands (h : session.Orderly) (hActs : session.Acts other) :
    ∃ handed, session.Hands other handed := by
  induction hActs with
  | refl => exact ⟨[], (List.append_nil _).symm, by simp⟩
  | tail hBefore hAct ih =>
      obtain ⟨handed, hHands⟩ := ih
      exact hHands.act (h.acts hBefore) hAct

end Session

end RemoteTable
