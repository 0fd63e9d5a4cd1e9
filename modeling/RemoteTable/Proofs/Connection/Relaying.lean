import RemoteTable.Proofs.Connection.Owing

/-! A connection passes frames and replies on without loss, duplication or reordering. Accepted frames
are written in order, all of them if the connection ends because the sender is gone, and the client
gets the replies in the order in which they were read. -/

namespace RemoteTable

/-- The message, or a time-out in its place if it is no reply and more can come. -/
def Incoming.hushed (message : Incoming) : Incoming :=
  if message.reply?.isNone && !message.isLast then .timeout else message

namespace Connection

/-- The event without a message that is no reply. -/
def Event.hushed : Event → Event
  | .read message => .read message.hushed
  | event => event

theorem step_hushed (connection : Connection) (event : Event) :
    connection.step event.hushed = connection.step event := by
  cases event with
  | read message =>
      simp only [Event.hushed, Incoming.hushed]
      split
      · rename_i hDull
        simp only [Bool.and_eq_true, Option.isNone_iff_eq_none, Bool.not_eq_true'] at hDull
        simp only [step, readMessage_of_none hDull.1 hDull.2]
        rfl
      · rfl
  | _ => rfl

/-- Messages that are no replies might as well not have come. -/
theorem run_hushed (connection : Connection) (events : List Event) :
    connection.run (events.map Event.hushed) = connection.run events := by
  induction events generalizing connection with
  | nil => rfl
  | cons event rest ih => simp [step_hushed, ih]

/-- Frames are written in the order in which they were accepted. As long as the worker is there, those
not yet written wait in its queue. -/
structure Forwards (past : List Passage) (connection : Connection) : Prop where
  written : connection.written = takenFrames past
  early : connection.written <+: acceptedFrames past
  attached : connection.phase ≠ .ended → connection.outbox.receiverHeld = true
  queued : connection.outbox.receiverHeld = true →
    connection.written ++ connection.outbox.frames = acceptedFrames past

theorem forwards_fresh : Forwards [] fresh where
  written := rfl
  early := List.prefix_rfl
  attached _ := rfl
  queued _ := rfl

namespace Forwards

variable {past passages : List Passage} {connection next : Connection}

/-- Each passage keeps the order of the frames. -/
theorem change (h : Forwards past connection) {event : Event}
    (hChange : Change connection event passages next) : Forwards (past ++ passages) next := by
  cases hChange with
  | @accepted frame hSender hReceiver =>
      refine ⟨?_, ?_, h.attached, fun _ => ?_⟩
      · rw [takenFrames_append]
        exact h.written.trans (List.append_nil _).symm
      · rw [acceptedFrames_append]
        exact h.early.trans (List.prefix_append _ _)
      · rw [acceptedFrames_append, ← h.queued hReceiver, List.append_assoc]
        rfl
  | @taken frame rest hPhase hFrames =>
      have hQueued := h.queued (h.attached (by simp [hPhase]))
      have hSplit : (connection.written ++ [frame]) ++ rest =
          acceptedFrames (past ++ [.taken frame]) := by
        rw [List.append_assoc, List.singleton_append, ← hFrames, hQueued, acceptedFrames_append]
        exact (List.append_nil _).symm
      refine ⟨?_, ⟨rest, hSplit⟩, h.attached, fun _ => hSplit⟩
      rw [takenFrames_append, ← h.written]
      rfl
  | @heard message frame hPhase hReply =>
      have hAttached := h.attached (by simp [hPhase])
      have hAccepted : acceptedFrames (past ++ [.heard frame]) = acceptedFrames past :=
        (acceptedFrames_append _ _).trans (List.append_nil _)
      have hTaken : takenFrames (past ++ [.heard frame]) = takenFrames past :=
        (takenFrames_append _ _).trans (List.append_nil _)
      unfold deliver
      split <;> exact ⟨hTaken ▸ h.written, hAccepted ▸ h.early, fun _ => hAttached,
        hAccepted ▸ h.queued⟩
  | finished =>
      rw [List.append_nil]
      exact ⟨h.written, h.early, fun hOpen => absurd rfl hOpen, nofun⟩
  | senderGone | repliesGone | idle =>
      rw [List.append_nil]
      exact ⟨h.written, h.early, h.attached, h.queued⟩
  | waits hPhase | leaves hPhase | skipped hPhase | broken hPhase =>
      have hAttached := h.attached (by simp [hPhase])
      rw [List.append_nil]
      exact ⟨h.written, h.early, fun _ => hAttached, h.queued⟩

end Forwards

/-- In every run, frames are written in the order in which they were accepted. -/
theorem forwards_run (events : List Event) :
    Forwards (fresh.history events) (fresh.run events) :=
  run_keeps (fun _ _ _ _ _ _ hChange h => h.change hChange) forwards_fresh

/-- The sender is gone and the worker has left its loop. Nothing is written or accepted any more. -/
structure Deserted (frames : List Request) (past : List Passage) (connection : Connection) :
    Prop where
  sender : connection.outbox.senderHeld = false
  phase : connection.phase = .closing ∨ connection.phase = .ended
  written : connection.written = frames
  accepted : acceptedFrames past = []

/-- A deserted connection stays deserted. -/
theorem Deserted.change {frames : List Request} {past passages : List Passage}
    {connection next : Connection} (h : Deserted frames past connection) {event : Event}
    (hChange : Change connection event passages next) :
    Deserted frames (past ++ passages) next := by
  have hNotWriting : connection.phase ≠ .writing := by rcases h.phase with hAt | hAt <;> simp [hAt]
  have hNotReading : connection.phase ≠ .reading := by rcases h.phase with hAt | hAt <;> simp [hAt]
  cases hChange with
  | accepted hSender => exact absurd (h.sender.symm.trans hSender) Bool.false_ne_true
  | taken hPhase | waits hPhase | leaves hPhase => exact absurd hPhase hNotWriting
  | heard hPhase | skipped hPhase | broken hPhase => exact absurd hPhase hNotReading
  | senderGone =>
      rw [List.append_nil]
      exact ⟨rfl, h.phase, h.written, h.accepted⟩
  | repliesGone | idle =>
      rw [List.append_nil]
      exact ⟨h.sender, h.phase, h.written, h.accepted⟩
  | finished =>
      rw [List.append_nil]
      exact ⟨h.sender, Or.inr rfl, h.written, h.accepted⟩

/-- The worker leaves its loop at the queue only if it is empty and the sender is gone. -/
theorem Change.of_leaving {connection next : Connection} {passages : List Passage}
    (hChange : Change connection .writeNext passages next) (hPhase : connection.phase = .writing)
    (hClosing : next.phase = .closing) :
    connection.outbox.frames = [] ∧ connection.outbox.senderHeld = false ∧ passages = [] ∧
      next = { connection with phase := .closing } := by
  cases hChange with
  | leaves _ hFrames hSender => exact ⟨hFrames, hSender, rfl, rfl⟩
  | taken | idle => simp [hPhase] at hClosing
  | waits => cases hClosing

/-- A worker that leaves its loop at the queue has written all that was accepted. -/
theorem written_of_leaving {before after : List Event}
    (hPhase : (fresh.run before).phase = .writing)
    (hClosing : ((fresh.run before).step .writeNext).phase = .closing) :
    (fresh.run before).outbox.senderHeld = false ∧
      (fresh.run before).written = acceptedFrames (fresh.history (before ++ .writeNext :: after)) ∧
      (fresh.run (before ++ .writeNext :: after)).written = (fresh.run before).written := by
  have hForwards := forwards_run before
  obtain ⟨hFrames, hSender, hNothing, hNext⟩ :=
    ((fresh.run before).change_step .writeNext).of_leaving hPhase hClosing
  have hWritten : (fresh.run before).written = acceptedFrames (fresh.history before) := by
    have hQueued := hForwards.queued (hForwards.attached (by simp [hPhase]))
    rwa [hFrames, List.append_nil] at hQueued
  have hStart : Deserted (fresh.run before).written [] ((fresh.run before).step .writeNext) := by
    rw [hNext]
    exact ⟨hSender, Or.inl rfl, rfl, rfl⟩
  have hRest : Deserted (fresh.run before).written
      ([] ++ ((fresh.run before).step .writeNext).history after)
      (((fresh.run before).step .writeNext).run after) :=
    run_keeps (fun _ _ _ _ _ _ hChange h => h.change hChange) hStart
  rw [run_append, run_cons]
  refine ⟨hSender, ?_, hRest.written⟩
  rw [history_append, history, hNothing, acceptedFrames_append, hWritten]
  exact (List.append_right_eq_self.mpr hRest.accepted).symm

/-- A connection relays without loss, duplication or reordering. In every run in which the client keeps
receiving replies, the frames written are the frames taken from the queue, in order, and the first ones
of those that were accepted. If the worker leaves its loop at the queue, which it does only if the
sender is gone, all of them are written before. The client gets the replies that were read, in order,
and behind them nothing but the errors at the end. Messages that are no replies might as well not have
come. -/
theorem relays_in_order (events : List Event) (hKept : Event.dropReplies ∉ events) :
    (fresh.run events).written = takenFrames (fresh.history events) ∧
    (fresh.run events).written <+: acceptedFrames (fresh.history events) ∧
    (∀ before after, events = before ++ .writeNext :: after →
      (fresh.run before).phase = .writing → ((fresh.run before).step .writeNext).phase = .closing →
      (fresh.run before).outbox.senderHeld = false ∧
        (fresh.run before).written = acceptedFrames (fresh.history events) ∧
        (fresh.run events).written = (fresh.run before).written) ∧
    (∃ ids : List Nat,
      (fresh.run events).replies = heardReplies (fresh.history events) ++ ids.map closedReply ∧
        ((fresh.run events).phase ≠ .ended → ids = [])) ∧
    fresh.run (events.map Event.hushed) = fresh.run events := by
  have hForwards := forwards_run events
  have hAnswers := answers_run hKept
  refine ⟨hForwards.written, hForwards.early, ?_, ?_, run_hushed _ _⟩
  · rintro before after rfl hPhase hClosing
    exact written_of_leaving hPhase hClosing
  · by_cases hEnded : (fresh.run events).phase = .ended
    · obtain ⟨ids, -, -, hReplies⟩ := hAnswers.closed hEnded
      exact ⟨ids, hReplies, fun hOpen => absurd hEnded hOpen⟩
    · exact ⟨[], by simpa using hAnswers.replies hEnded, fun _ => rfl⟩

/-- A text without meaning and a message of another kind come between two frames, and a reply is read
before the sender goes with one frame still in the queue. -/
theorem relays_in_order_until_sender_goes :
    let before : List Event := [.send ⟨1, ⟨"t"⟩, "getSchema", .null⟩, .writeNext, .writeNext,
      .read (.text "?"), .writeNext, .read .other, .writeNext,
      .read (.text "\x7b\"requestId\":1,\"type\":\"completed\"\x7d"),
      .send ⟨2, ⟨"t"⟩, "range", .string "A"⟩, .dropSender, .writeNext]
    let events := before ++ [.writeNext, .finish]
    Event.dropReplies ∉ events ∧ (fresh.run before).phase = .writing ∧
      ((fresh.run before).step .writeNext).phase = .closing ∧
      (fresh.run events).written = takenFrames (fresh.history events) ∧
      (fresh.run events).written <+: acceptedFrames (fresh.history events) ∧
      ((fresh.run before).outbox.senderHeld = false ∧
        (fresh.run before).written = acceptedFrames (fresh.history events) ∧
        (fresh.run events).written = (fresh.run before).written) ∧
      (∃ ids : List Nat,
        (fresh.run events).replies = heardReplies (fresh.history events) ++ ids.map closedReply ∧
          ((fresh.run events).phase ≠ .ended → ids = [])) ∧
      fresh.run (events.map Event.hushed) = fresh.run events := by
  intro before events
  have hKept : Event.dropReplies ∉ events := by simp [events, before]
  have hPhase : (fresh.run before).phase = .writing := by decide +kernel
  have hClosing : ((fresh.run before).step .writeNext).phase = .closing := by decide +kernel
  obtain ⟨hTaken, hAccepted, hLeaving, hReplies, hHushed⟩ := relays_in_order events hKept
  exact ⟨hKept, hPhase, hClosing, hTaken, hAccepted, hLeaving before [.finish] rfl hPhase hClosing,
    hReplies, hHushed⟩

end Connection

end RemoteTable
