import Mathlib.Tactic.Common
import RemoteTable.Session.Basic

/-! How views and observers use a session: they give up requests and report errors, and issue at
most one request, as the last thing. What such a use leaves alone is said here once. -/

namespace RemoteTable.Session

@[simp] theorem pending_cancel (session : Session) (id : Nat) :
    (session.cancel id).2.pending = session.pending := by
  unfold cancel
  split <;> rfl

@[simp] theorem progress_cancel (session : Session) (id : Nat) :
    (session.cancel id).2.progress = session.progress := by
  unfold cancel
  split <;> rfl

@[simp] theorem nextRequestId_cancel (session : Session) (id : Nat) :
    (session.cancel id).2.nextRequestId = session.nextRequestId := by
  unfold cancel
  split <;> rfl

/-- A cancellation tells whether the request has waited. -/
theorem fst_cancel (session : Session) (id : Nat) :
    (session.cancel id).1 = (session.pending? id).isSome := by
  unfold cancel
  split <;> simp [*]

/-- A request that is given up sees a cancellation behind all replies that wait already. -/
theorem queue_cancel (session : Session) (id : Nat) :
    (session.cancel id).2.queue =
      session.queue ++ if (session.pending? id).isSome then [⟨id, .cancelled⟩] else [] := by
  unfold cancel
  split <;> simp [*, enqueue, transmit]

@[simp] theorem accepts_cancel (session : Session) (id : Nat) :
    (session.cancel id).2.accepts = session.accepts := by
  unfold cancel
  split <;> rfl

/-- What the transport was handed before stays. -/
theorem attempts_cancel (session : Session) (id : Nat) :
    session.attempts <+: (session.cancel id).2.attempts := by
  unfold cancel
  split
  · exact List.prefix_rfl
  · exact List.prefix_append _ _

section Invoke

variable (session : Session) (call : Call) (observer : Observer)

/-- The receiver of a request that is issued. -/
def newReceiver : Receiver := ⟨session.nextRequestId, session.progress.nextId, false, observer⟩

/-- A request that is issued is entered, shown and handed to the transport. If the transport does
not take its frame, an error waits for it. -/
theorem snd_invoke :
    (session.invoke call observer).2 =
      { session with
        attempts := session.attempts ++
          [⟨⟨session.nextRequestId, call.objectId, call.method, call.arguments⟩,
            session.accepts session.attempts.length⟩]
        queue := session.queue ++ if session.accepts session.attempts.length then []
          else [⟨session.nextRequestId, .error ClientError.connectionClosed.message⟩]
        pending := session.pending ++
          [(session.nextRequestId, ⟨call.objectId, session.newReceiver observer⟩)]
        nextRequestId := session.nextRequestId + 1
        progress := (session.progress.add session.nextRequestId observer.description).2 } := by
  cases hAccepts : session.accepts session.attempts.length <;>
    simp [invoke, transmit, register, enqueue, newReceiver, Progress.add, hAccepts]

/-- A request that is issued waits behind all others, a refused one too. -/
@[simp] theorem pending_invoke :
    (session.invoke call observer).2.pending = session.pending ++
      [(session.nextRequestId, ⟨call.objectId, session.newReceiver observer⟩)] := by
  rw [snd_invoke]

/-- It gets a bar with the description of its observer. -/
@[simp] theorem progress_invoke :
    (session.invoke call observer).2.progress =
      (session.progress.add session.nextRequestId observer.description).2 := by
  rw [snd_invoke]

@[simp] theorem nextRequestId_invoke :
    (session.invoke call observer).2.nextRequestId = session.nextRequestId + 1 := by
  rw [snd_invoke]

end Invoke

/-- Requests are given up and errors reported. None is issued. -/
inductive Quiet (start : Session) : Session → Prop where
  | refl : Quiet start start
  | cancel {session : Session} (prior : Quiet start session) (id : Nat) :
      Quiet start (session.cancel id).2
  | report {session : Session} (prior : Quiet start session) (message : String) :
      Quiet start (session.reportError message)

namespace Quiet

variable {first second third : Session}

theorem trans (left : Quiet first second) (right : Quiet second third) : Quiet first third := by
  induction right with
  | refl => exact left
  | cancel _ id ih => exact ih.cancel id
  | report _ message ih => exact ih.report message

/-- Requests that are given up still wait for their end. -/
theorem pending_eq (h : Quiet first second) : second.pending = first.pending := by
  induction h with
  | refl => rfl
  | cancel _ id ih => rw [pending_cancel, ih]
  | report _ message ih => exact ih

/-- Their bars stay with them. -/
theorem progress_eq (h : Quiet first second) : second.progress = first.progress := by
  induction h with
  | refl => rfl
  | cancel _ id ih => rw [progress_cancel, ih]
  | report _ message ih => exact ih

theorem nextRequestId_eq (h : Quiet first second) :
    second.nextRequestId = first.nextRequestId := by
  induction h with
  | refl => rfl
  | cancel _ id ih => rw [nextRequestId_cancel, ih]
  | report _ message ih => exact ih

theorem accepts_eq (h : Quiet first second) : second.accepts = first.accepts := by
  induction h with
  | refl => rfl
  | cancel _ id ih => rw [accepts_cancel, ih]
  | report _ message ih => exact ih

/-- Frames are added behind those from before. -/
theorem attempts_prefix (h : Quiet first second) : first.attempts <+: second.attempts := by
  induction h with
  | refl => exact List.prefix_rfl
  | cancel _ id ih => exact ih.trans (attempts_cancel _ id)
  | report _ message ih => exact ih

end Quiet

/-- Requests are given up and errors reported, and then at most one request is issued. -/
inductive Uses (start : Session) : Session → Prop where
  | quiet {session : Session} (h : Quiet start session) : Uses start session
  | issue {session : Session} (h : Quiet start session) (call : Call) (observer : Observer) :
      Uses start (session.invoke call observer).2

/-- Giving up and reporting in front of a request do not count. -/
theorem Quiet.uses {first second third : Session} (left : Quiet first second)
    (right : Uses second third) : Uses first third := by
  cases right with
  | quiet h => exact .quiet (left.trans h)
  | issue h call observer => exact .issue (left.trans h) call observer

/-- Cancelling several requests asks for nothing. -/
theorem quiet_cancelEach (session : Session) (ids : List Nat) :
    Quiet session (session.cancelEach ids).2 := by
  induction ids generalizing session with
  | nil => exact .refl
  | cons id rest ih => exact (Quiet.refl.cancel id).trans (ih _)

end RemoteTable.Session
