import RemoteTable.Proofs.Connection.Run

/-! What becomes of requests when their connection ends. The worker answers the requests it has
taken from the queue. A frame queued after its last look at the queue is lost, although the sender
was told that it had been accepted. -/

namespace RemoteTable.Connection

/-- An ended worker does not come back. -/
theorem phase_run_ended {connection : Connection} (hEnded : connection.phase = .ended)
    (events : List Event) : (connection.run events).phase = .ended := by
  induction events generalizing connection with
  | nil => exact hEnded
  | cons event events ih =>
      apply ih
      cases event <;> simp [Connection.step, Connection.send, hEnded]

/-- Replies that have been received stay received. -/
theorem mem_replies_step {connection : Connection} {frame : ReplyFrame} (event : Event)
    (hFrame : frame ∈ connection.replies) : frame ∈ (connection.step event).replies := by
  cases event with
  | send | dropSender | dropReplies => exact hFrame
  | writeNext =>
      simp only [Connection.step, writeNext]
      repeat' split
      all_goals exact hFrame
  | read message =>
      simp only [Connection.step, readMessage, deliver]
      repeat' split
      all_goals first | exact hFrame | exact List.mem_append_left _ hFrame
  | finish =>
      simp only [Connection.step, finish]
      split
      · exact List.mem_append_left _ hFrame
      · exact hFrame

/-- A reply that has been passed on is not taken back. -/
theorem mem_replies_run {connection : Connection} {frame : ReplyFrame} (events : List Event)
    (hFrame : frame ∈ connection.replies) : frame ∈ (connection.run events).replies := by
  induction events generalizing connection with
  | nil => exact hFrame
  | cons event events ih => exact ih (mem_replies_step event hFrame)

/-- A frame in the queue was there before or is the one just handed over. -/
theorem mem_queue_step {connection : Connection} {event : Event} {frame : Request}
    (hFrame : frame ∈ (connection.step event).outbox.frames) :
    frame ∈ connection.outbox.frames ++ sentFrames [event] := by
  cases event with
  | send sent =>
      simp only [Connection.step, Connection.send, Outbox.send] at hFrame
      split at hFrame
      · exact hFrame
      · exact List.mem_append_left _ hFrame
  | dropSender | dropReplies => exact List.mem_append_left _ hFrame
  | writeNext =>
      simp only [Connection.step, writeNext] at hFrame
      apply List.mem_append_left
      repeat' split at hFrame
      · rename_i head rest hFrames
        exact hFrames ▸ List.mem_cons_of_mem _ hFrame
      all_goals exact hFrame
  | read message =>
      simp only [Connection.step, readMessage, deliver] at hFrame
      apply List.mem_append_left
      repeat' split at hFrame
      all_goals exact hFrame
  | finish =>
      simp only [Connection.step, finish, Outbox.dropReceiver] at hFrame
      split at hFrame
      · simp at hFrame
      · exact List.mem_append_left _ hFrame

/-- Every request that is queued or running was handed over with one of the frames. -/
structure SentFrom (frames : List Request) (connection : Connection) : Prop where
  queued : ∀ frame ∈ connection.outbox.frames, frame ∈ frames
  running : ∀ id ∈ connection.running, ∃ frame ∈ frames, frame.requestId = id

theorem SentFrom.mono {frames more : List Request} {connection : Connection}
    (h : SentFrom frames connection) (hMore : frames ⊆ more) : SentFrom more connection :=
  ⟨fun frame hFrame => hMore (h.queued frame hFrame), fun id hId =>
    (h.running id hId).imp fun _ hFrame => ⟨hMore hFrame.1, hFrame.2⟩⟩

theorem SentFrom.step {frames : List Request} {connection : Connection}
    (h : SentFrom frames connection) (event : Event) :
    SentFrom (frames ++ sentFrames [event]) (connection.step event) := by
  refine ⟨fun frame hFrame => ?_, ?_⟩
  · rcases List.mem_append.mp (mem_queue_step hFrame) with hOld | hNew
    · exact List.mem_append_left _ (h.queued frame hOld)
    · exact List.mem_append_right _ hNew
  have hMore := h.mono (List.subset_append_left frames (sentFrames [event]))
  cases event with
  | send | dropSender | dropReplies => exact hMore.running
  | writeNext =>
      simp only [Connection.step, writeNext]
      repeat' split
      · rename_i frame rest hFrames
        intro id hId
        rcases eq_or_mem_of_mem_runningAfterRequest hId with hSame | hOld
        · exact ⟨frame, hMore.queued frame (by simp [hFrames]), hSame⟩
        · exact hMore.running id hOld
      all_goals exact hMore.running
  | read message =>
      simp only [Connection.step, readMessage, deliver]
      repeat' split
      all_goals first
        | exact hMore.running
        | exact fun id hId => hMore.running id (mem_runningAfterReply.mp hId).1
  | finish =>
      simp only [Connection.step, finish]
      split
      · simp
      · exact hMore.running

/-- In every run, whatever is queued or running was handed over. -/
theorem SentFrom.run {frames : List Request} {connection : Connection}
    (h : SentFrom frames connection) (events : List Event) :
    SentFrom (frames ++ sentFrames events) (connection.run events) := by
  induction events generalizing frames connection with
  | nil => simpa [sentFrames] using h
  | cons event events ih =>
      have hRest := ih (h.step event)
      rwa [List.append_assoc, sentFrames, sentFrames, ← List.filterMap_append] at hRest

/-- The events lead to the end of the connection, and up to it neither a cancellation nor a final
reply ends request `id`. -/
structure Unanswered (id : Nat) (connection : Connection) (events : List Event) : Prop where
  held : Held connection
  traffic : ∀ event ∈ events, event.IsTraffic
  kept : ∀ frame ∈ connection.outbox.frames ++ sentFrames events,
    frame.isCancel = true → frame.requestId ≠ id
  closing : (connection.run events).phase = .closing
  replies : ∀ frame ∈ (connection.run events).replies,
    frame.requestId = id → frame.reply.isFinal = false

/-- What is unanswered to the end is so behind each event. -/
theorem Unanswered.tail {id : Nat} {connection : Connection} {event : Event} {events : List Event}
    (h : Unanswered id connection (event :: events)) :
    Unanswered id (connection.step event) events where
  held := h.held.step (h.traffic event List.mem_cons_self)
  traffic := fun other hOther => h.traffic other (List.mem_cons_of_mem _ hOther)
  kept := fun frame hFrame => by
    apply h.kept frame
    have hSplit : sentFrames (event :: events) = sentFrames [event] ++ sentFrames events :=
      List.filterMap_append (l := [event])
    rw [hSplit, ← List.append_assoc]
    rcases List.mem_append.mp hFrame with hQueued | hLater
    · exact List.mem_append_left _ (mem_queue_step hQueued)
    · exact List.mem_append_right _ hLater
  closing := h.closing
  replies := h.replies

/-- The worker stays at its work as long as the connection has not ended. -/
theorem Unanswered.phase_ne_ended {id : Nat} {connection : Connection} {events : List Event}
    (h : Unanswered id connection events) : connection.phase ≠ .ended := by
  intro hEnded
  have hClosing := h.closing
  rw [phase_run_ended hEnded events] at hClosing
  cases hClosing

/-- The worker has taken the request, or it is about to take a frame with it. -/
def Reached (id : Nat) (connection : Connection) : Prop :=
  id ∈ connection.running ∨ (connection.phase = .writing ∧
    ∃ frame ∈ connection.outbox.frames, frame.isCancel = false ∧ frame.requestId = id)

/-- The worker takes the first frame of its queue, which does not cancel the request. -/
theorem Reached.writeNext {id : Nat} {connection : Connection} (h : Reached id connection)
    (hPhase : connection.phase = .writing)
    (hKept : ∀ frame ∈ connection.outbox.frames, frame.isCancel = true → frame.requestId ≠ id) :
    Reached id connection.writeNext := by
  cases hFrames : connection.outbox.frames with
  | nil =>
      simp only [Reached, hFrames, List.not_mem_nil, false_and, exists_false, and_false,
        or_false] at h
      simp only [Connection.writeNext, hFrames]
      exact Or.inl h
  | cons head rest =>
      have hHead := hKept head (hFrames ▸ List.mem_cons_self)
      simp only [Connection.writeNext, hFrames]
      rcases h with hRunning | ⟨-, frame, hFrame, hRequest, hSame⟩
      · exact Or.inl (mem_runningAfterRequest hRunning hHead)
      · rw [hFrames] at hFrame
        rcases List.mem_cons.mp hFrame with hFirst | hRest
        · subst hFirst hSame
          exact Or.inl (mem_runningAfterRequest_self _ hRequest)
        · exact Or.inr ⟨hPhase, frame, hRest, hRequest, hSame⟩

/-- As long as nothing ends the request, the worker does not lose it. -/
theorem Reached.step {id : Nat} {connection : Connection} {event : Event} {events : List Event}
    (h : Reached id connection) (hOpen : Unanswered id connection (event :: events)) :
    Reached id (connection.step event) := by
  cases event with
  | send frame =>
      simp only [Connection.step, Connection.send, Outbox.send]
      split
      · rcases h with hRunning | ⟨hPhase, other, hOther, hSame⟩
        · exact Or.inl hRunning
        · exact Or.inr ⟨hPhase, other, List.mem_append_left _ hOther, hSame⟩
      · exact h
  | dropSender | dropReplies => exact (hOpen.traffic _ List.mem_cons_self).elim
  | writeNext =>
      simp only [Connection.step]
      split_ifs with hPhase
      · exact h.writeNext hPhase fun frame hFrame => hOpen.kept frame (List.mem_append_left _ hFrame)
      · exact h
  | read message =>
      have hReplies := hOpen.tail.replies
      simp only [Connection.step] at hReplies ⊢
      split_ifs at hReplies ⊢ with hPhase
      · have hRunning : id ∈ connection.running := by
          rcases h with hRunning | ⟨hWriting, -⟩
          · exact hRunning
          · simp [hPhase] at hWriting
        apply Or.inl
        unfold readMessage at hReplies ⊢
        repeat' split
        · rename_i frame hDecoded
          simp only [hDecoded, deliver, hOpen.held.replies, if_true] at hReplies ⊢
          refine mem_runningAfterReply.mpr ⟨hRunning, hReplies frame ?_⟩
          exact mem_replies_run events (List.mem_append_right _ (List.mem_singleton_self frame))
        all_goals exact hRunning
      · exact h
  | finish =>
      simp only [Connection.step]
      split_ifs with hPhase
      · refine absurd ?_ hOpen.tail.phase_ne_ended
        simp [Connection.step, hPhase, finish]
      · exact h

/-- So it is running at the end of the connection. -/
theorem Reached.run {id : Nat} {connection : Connection} {events : List Event}
    (h : Reached id connection) (hOpen : Unanswered id connection events) :
    id ∈ (connection.run events).running := by
  induction events generalizing connection with
  | nil =>
      rcases h with hRunning | ⟨hWriting, -⟩
      · exact hRunning
      · have hClosing := hOpen.closing
        rw [run_nil, hWriting] at hClosing
        cases hClosing
  | cons event events ih => exact ih (h.step hOpen) hOpen.tail

/-- A worker that does not write leaves the queue and the new requests in it alone. -/
theorem queue_step_of_not_writing {id : Nat} {connection : Connection} {event : Event}
    {events : List Event} (hOpen : Unanswered id connection (event :: events))
    (hPhase : connection.phase ≠ .writing) :
    connection.outbox.frames ⊆ (connection.step event).outbox.frames ∧
      (connection.step event).running ⊆ connection.running := by
  cases event with
  | send frame =>
      simp only [Connection.step, Connection.send, Outbox.send]
      split
      · exact ⟨List.subset_append_left _ _, List.Subset.refl _⟩
      · exact ⟨List.Subset.refl _, List.Subset.refl _⟩
  | dropSender | dropReplies => exact ⟨List.Subset.refl _, List.Subset.refl _⟩
  | writeNext =>
      rw [Connection.step, if_neg hPhase]
      exact ⟨List.Subset.refl _, List.Subset.refl _⟩
  | read message =>
      simp only [Connection.step, readMessage, deliver]
      repeat' split
      all_goals first
        | exact ⟨List.Subset.refl _, List.Subset.refl _⟩
        | exact ⟨List.Subset.refl _, fun _ hId => (mem_runningAfterReply.mp hId).1⟩
  | finish =>
      have hEnded := hOpen.tail.phase_ne_ended
      simp only [Connection.step] at hEnded ⊢
      split_ifs at hEnded ⊢ with hClosing
      · exact absurd rfl hEnded
      · exact ⟨List.Subset.refl _, List.Subset.refl _⟩

/-- A queued request runs at the end of the connection exactly if the worker comes back to its
queue before. -/
theorem mem_running_iff_writing {id : Nat} {connection : Connection} {events : List Event}
    {frame : Request} (hOpen : Unanswered id connection events)
    (hFrame : frame ∈ connection.outbox.frames) (hRequest : frame.isCancel = false)
    (hId : frame.requestId = id) (hNew : id ∉ connection.running) :
    id ∈ (connection.run events).running ↔
      ∃ earlier later, events = earlier ++ later ∧ (connection.run earlier).phase = .writing := by
  induction events generalizing connection with
  | nil =>
      have hClosing := hOpen.closing
      rw [run_nil] at hClosing
      constructor
      · exact fun hRunning => absurd hRunning hNew
      · rintro ⟨earlier, later, hSplit, hWriting⟩
        obtain ⟨rfl, rfl⟩ := List.nil_eq_append_iff.mp hSplit
        rw [run_nil, hClosing] at hWriting
        cases hWriting
  | cons event events ih =>
      by_cases hPhase : connection.phase = .writing
      · have hReached : Reached id connection := Or.inr ⟨hPhase, frame, hFrame, hRequest, hId⟩
        exact ⟨fun _ => ⟨[], event :: events, rfl, hPhase⟩, fun _ => hReached.run hOpen⟩
      · obtain ⟨hQueue, hRunning⟩ := queue_step_of_not_writing hOpen hPhase
        have hRest := ih hOpen.tail (hQueue hFrame) (fun hId => hNew (hRunning hId))
        rw [run_cons, hRest]
        constructor
        · rintro ⟨earlier, later, rfl, hWriting⟩
          exact ⟨event :: earlier, later, rfl, hWriting⟩
        · rintro ⟨earlier, later, hSplit, hWriting⟩
          cases earlier with
          | nil => exact absurd hWriting hPhase
          | cons first earlier =>
              obtain ⟨rfl, rfl⟩ := List.cons_eq_cons.mp hSplit
              exact ⟨earlier, later, rfl, hWriting⟩

/-- The last step of the worker answers exactly the running requests. -/
theorem closedReply_mem_finish {id : Nat} {connection : Connection} (hHeld : Held connection)
    (hClosing : connection.phase = .closing)
    (hOpen : ∀ frame ∈ connection.replies, frame.requestId = id → frame.reply.isFinal = false) :
    closedReply id ∈ (connection.step .finish).replies ↔ id ∈ connection.running := by
  have hOld : closedReply id ∉ connection.replies := fun hReply => by
    have hFinal := hOpen _ hReply rfl
    cases hFinal
  simp only [Connection.step, hClosing, if_true, finish, hHeld.replies, List.mem_append, hOld,
    false_or, List.mem_map]
  constructor
  · rintro ⟨other, hOther, hSame⟩
    have hId : other = id := congrArg ReplyFrame.requestId hSame
    exact hId ▸ hOther
  · exact fun hId => ⟨id, hId, rfl⟩

/-- A request under a new number is handed over, and then neither cancelled nor ended by a final
reply of the server before the connection ends. The queue takes it in any case, but it is answered
exactly if the worker looks at its queue between this moment and the end. A frame queued while the
worker reads its last message, or after that, is lost. -/
theorem closedReply_mem_iff_worker_returns (before after : List Event) (frame : Request)
    (hTraffic : ∀ event ∈ before ++ after, event.IsTraffic)
    (hRequest : frame.isCancel = false)
    (hFresh : ∀ other ∈ sentFrames before, other.requestId ≠ frame.requestId)
    (hKept : ∀ other ∈ sentFrames after,
      other.isCancel = true → other.requestId ≠ frame.requestId)
    (hClosing : (fresh.run (before ++ .send frame :: after)).phase = .closing)
    (hOpen : ∀ reply ∈ (fresh.run (before ++ .send frame :: after)).replies,
      reply.requestId = frame.requestId → reply.reply.isFinal = false) :
    ((fresh.run before).send frame).1 = true ∧
      (closedReply frame.requestId ∈
          ((fresh.run (before ++ .send frame :: after)).step .finish).replies ↔
        ∃ earlier later, after = earlier ++ later ∧
          (fresh.run (before ++ .send frame :: earlier)).phase = .writing) := by
  have hBefore : Held (fresh.run before) :=
    held_fresh.run fun event hEvent => hTraffic event (List.mem_append_left _ hEvent)
  have hStart : SentFrom [] fresh := ⟨by simp [fresh, Outbox.fresh], by simp [fresh]⟩
  have hSent : SentFrom (sentFrames before) (fresh.run before) := hStart.run before
  simp only [run_append, run_cons] at hClosing hOpen ⊢
  have hAt : Unanswered frame.requestId (fresh.run before) (.send frame :: after) :=
    { held := hBefore
      traffic := List.forall_mem_cons.mpr
        ⟨trivial, fun event hEvent => hTraffic event (List.mem_append_right _ hEvent)⟩
      kept := by
        intro other hOther hCancel
        rcases List.mem_append.mp hOther with hQueued | hLater
        · exact hFresh other (hSent.queued other hQueued)
        · rcases List.mem_cons.mp hLater with rfl | hRest
          · simp [hRequest] at hCancel
          · exact hKept other hRest hCancel
      closing := hClosing
      replies := hOpen }
  have hAccepted : (fresh.run before).outbox.send frame =
      (true, { (fresh.run before).outbox with
        frames := (fresh.run before).outbox.frames ++ [frame] }) := by
    simp [Outbox.send, hBefore.sender, hBefore.receiver hAt.phase_ne_ended]
  have hNew : frame.requestId ∉ (fresh.run before).running := fun hRunning => by
    obtain ⟨other, hOther, hSame⟩ := hSent.running _ hRunning
    exact hFresh other hOther hSame
  refine ⟨by simp [Connection.send, hAccepted], ?_⟩
  have hTail := hAt.tail
  rw [closedReply_mem_finish (hTail.held.run hTail.traffic) hTail.closing hTail.replies]
  exact mem_running_iff_writing hTail
    (by simp [Connection.step, Connection.send, hAccepted]) hRequest rfl
    (by simpa [Connection.step, Connection.send, hAccepted] using hNew)

/-- A request queued while the worker reads is answered if one more message comes before the end. -/
theorem closedReply_mem_after_timeout :
    closedReply 1 ∈ ((fresh.run [.writeNext, .send ⟨1, ⟨"t"⟩, "getSchema", .null⟩,
      .read .timeout, .writeNext, .writeNext, .read .close]).step .finish).replies :=
  (closedReply_mem_iff_worker_returns [.writeNext]
    [.read .timeout, .writeNext, .writeNext, .read .close] ⟨1, ⟨"t"⟩, "getSchema", .null⟩
    (by simp [Event.IsTraffic]) (by decide) (by simp [sentFrames]) (by simp [sentFrames])
    (by decide) (by decide)).2.mpr
    ⟨[.read .timeout], [.writeNext, .writeNext, .read .close], rfl, by decide⟩

/-- A request queued while the worker reads the message that closes the connection is accepted, but
never written and never answered. -/
theorem request_lost_while_reading :
    ((fresh.run [.writeNext]).send ⟨1, ⟨"t"⟩, "getSchema", .null⟩).1 = true ∧
      (fresh.run [.writeNext, .send ⟨1, ⟨"t"⟩, "getSchema", .null⟩, .read .close, .finish]).phase =
        .ended ∧
      (fresh.run [.writeNext, .send ⟨1, ⟨"t"⟩, "getSchema", .null⟩, .read .close, .finish]).written =
        [] ∧
      (fresh.run [.writeNext, .send ⟨1, ⟨"t"⟩, "getSchema", .null⟩, .read .close, .finish]).replies =
        [] := by
  decide

end RemoteTable.Connection
