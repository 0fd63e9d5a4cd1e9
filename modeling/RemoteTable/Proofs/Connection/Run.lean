import Mathlib.Tactic.Common
import RemoteTable.Connection.Basic

/-! Runs of a connection whose client keeps its ends of the queue and of the replies: which requests
are running after a step, and what the worker still holds. -/

namespace RemoteTable

/-- Completion and errors end a request on the side of the server. -/
def Reply.isFinal : Reply → Bool
  | completed | error _ => true
  | next _ | cancelled => false

namespace Connection

/-- The client keeps its end of the queue and receives the replies. -/
def Event.IsTraffic : Event → Prop
  | dropSender | dropReplies => False
  | send _ | writeNext | read _ | finish => True

/-- The frames that are handed over for sending, in order. -/
def sentFrames (events : List Event) : List Request :=
  events.filterMap fun
    | .send frame => some frame
    | _ => none

@[simp] theorem run_nil (connection : Connection) : connection.run [] = connection := rfl

@[simp] theorem run_cons (connection : Connection) (event : Event) (events : List Event) :
    connection.run (event :: events) = (connection.step event).run events := rfl

/-- A run is made of the runs of its parts. -/
theorem run_append (connection : Connection) (first second : List Event) :
    connection.run (first ++ second) = (connection.run first).run second :=
  List.foldl_append

theorem mem_insertId {id other : Nat} {ids : List Nat} :
    other ∈ insertId id ids ↔ other = id ∨ other ∈ ids := by
  induction ids with
  | nil => simp [insertId]
  | cons head rest ih =>
      unfold insertId
      split_ifs with hLess hSame
      · simp
      · subst hSame
        simp
      · simp only [List.mem_cons, ih]
        exact or_left_comm

theorem mem_removeId {id other : Nat} {ids : List Nat} :
    other ∈ removeId id ids ↔ other ∈ ids ∧ other ≠ id := by
  simp [removeId]

/-- A request runs once it has been taken from the queue. -/
theorem mem_runningAfterRequest_self (running : List Nat) {frame : Request}
    (hRequest : frame.isCancel = false) :
    frame.requestId ∈ runningAfterRequest running frame := by
  simp [runningAfterRequest, hRequest, mem_insertId]

/-- Only its own cancellation takes a request from the running ones when a frame is written. -/
theorem mem_runningAfterRequest {id : Nat} {running : List Nat} {frame : Request}
    (hRunning : id ∈ running) (hKept : frame.isCancel = true → frame.requestId ≠ id) :
    id ∈ runningAfterRequest running frame := by
  unfold runningAfterRequest
  split_ifs with hCancel
  · exact mem_removeId.mpr ⟨hRunning, (hKept hCancel).symm⟩
  · exact mem_insertId.mpr (Or.inr hRunning)

theorem eq_or_mem_of_mem_runningAfterRequest {id : Nat} {running : List Nat} {frame : Request}
    (h : id ∈ runningAfterRequest running frame) : frame.requestId = id ∨ id ∈ running := by
  unfold runningAfterRequest at h
  split_ifs at h with hCancel
  · exact Or.inr (mem_removeId.mp h).1
  · exact (mem_insertId.mp h).imp_left Eq.symm

/-- A final reply ends its own request only. -/
theorem mem_runningAfterReply {id : Nat} {running : List Nat} {frame : ReplyFrame} :
    id ∈ runningAfterReply running frame ↔
      id ∈ running ∧ (frame.requestId = id → frame.reply.isFinal = false) := by
  unfold runningAfterReply
  cases hReply : frame.reply <;> simp [Reply.isFinal, mem_removeId, eq_comm]

/-- While the client keeps its ends, only an ended worker has let go of the queue. -/
structure Held (connection : Connection) : Prop where
  sender : connection.outbox.senderHeld = true
  replies : connection.repliesHeld = true
  receiver : connection.phase ≠ .ended → connection.outbox.receiverHeld = true

theorem held_fresh : Held fresh := ⟨rfl, rfl, fun _ => rfl⟩

theorem Held.step {connection : Connection} (hHeld : Held connection) {event : Event}
    (hTraffic : event.IsTraffic) : Held (connection.step event) := by
  obtain ⟨hSender, hReplies, hReceiver⟩ := hHeld
  cases event with
  | send frame =>
      simp only [Connection.step, Connection.send, Outbox.send]
      split_ifs <;> exact ⟨hSender, hReplies, hReceiver⟩
  | dropSender => exact hTraffic.elim
  | dropReplies => exact hTraffic.elim
  | writeNext =>
      simp only [Connection.step]
      split_ifs with hPhase
      · have hOpen := hReceiver (by simp [hPhase])
        unfold writeNext
        split <;> exact ⟨hSender, hReplies, fun _ => hOpen⟩
      · exact ⟨hSender, hReplies, hReceiver⟩
  | read message =>
      simp only [Connection.step]
      split_ifs with hPhase
      · have hOpen := hReceiver (by simp [hPhase])
        unfold readMessage deliver
        repeat' split
        all_goals exact ⟨hSender, hReplies, fun _ => hOpen⟩
      · exact ⟨hSender, hReplies, hReceiver⟩
  | finish =>
      simp only [Connection.step]
      split_ifs with hPhase
      · exact ⟨hSender, hReplies, fun h => absurd rfl h⟩
      · exact ⟨hSender, hReplies, hReceiver⟩

/-- Traffic alone makes neither end go. -/
theorem Held.run {connection : Connection} (hHeld : Held connection) {events : List Event}
    (hTraffic : ∀ event ∈ events, event.IsTraffic) : Held (connection.run events) := by
  induction events generalizing connection with
  | nil => exact hHeld
  | cons event events ih =>
      obtain ⟨hFirst, hRest⟩ := List.forall_mem_cons.mp hTraffic
      exact ih (hHeld.step hFirst) hRest

end Connection

end RemoteTable
