import RemoteTable.Proofs.Connection.History

/-! Which requests are answered by an error when a connection ends: exactly those that the server still
owes a terminal reply for. -/

namespace RemoteTable.Connection

/-- A request under this number is on its way to the server. -/
def Passage.Starts (id : Nat) : Passage → Prop
  | .taken frame => frame.isCancel = false ∧ frame.requestId = id
  | .accepted _ | .heard _ => False

/-- The request is given up, or a reply ends it. -/
def Passage.Ends (id : Nat) : Passage → Prop
  | .taken frame => frame.isCancel = true ∧ frame.requestId = id
  | .heard frame => frame.reply.isFinal = true ∧ frame.requestId = id
  | .accepted _ => False

/-- A terminal reply is owed for a request: since it was last taken from the queue, it has neither been
given up nor ended by a reply. -/
def Owed (id : Nat) (past : List Passage) : Prop :=
  ∃ earlier start later, past = earlier ++ start :: later ∧ start.Starts id ∧
    ∀ passage ∈ later, ¬ passage.Starts id ∧ ¬ passage.Ends id

theorem not_owed_nil (id : Nat) : ¬ Owed id [] := by
  rintro ⟨earlier, start, later, hPast, -⟩
  simp at hPast

/-- The last passage decides, unless it has nothing to do with the request. -/
theorem owed_concat {id : Nat} {past : List Passage} {last : Passage} :
    Owed id (past ++ [last]) ↔ last.Starts id ∨ Owed id past ∧ ¬ last.Ends id := by
  constructor
  · rintro ⟨earlier, start, later, hPast, hStarts, hLater⟩
    rcases List.eq_nil_or_concat later with rfl | ⟨later, other, rfl⟩
    · obtain ⟨-, hSame⟩ := List.append_inj' hPast rfl
      cases hSame
      exact Or.inl hStarts
    · rw [List.concat_eq_append, ← List.cons_append, ← List.append_assoc] at hPast
      obtain ⟨rfl, hSame⟩ := List.append_inj' hPast rfl
      cases hSame
      have hLast := hLater last (by simp)
      exact Or.inr ⟨⟨earlier, start, later, rfl, hStarts,
        fun passage hPassage => hLater passage (by simp [hPassage])⟩, hLast.2⟩
  · rintro (hStarts | ⟨⟨earlier, start, later, rfl, hStarts, hLater⟩, hGoesOn⟩)
    · exact ⟨past, last, [], rfl, hStarts, by simp⟩
    · by_cases hAgain : last.Starts id
      · exact ⟨_, last, [], rfl, hAgain, by simp⟩
      · refine ⟨earlier, start, later ++ [last], by simp, hStarts, fun passage hPassage => ?_⟩
        rcases List.mem_append.mp hPassage with hOld | hNew
        · exact hLater passage hOld
        · obtain rfl := List.mem_singleton.mp hNew
          exact ⟨hAgain, hGoesOn⟩

theorem pairwise_insertId {ids : List Nat} (hIds : ids.Pairwise (· < ·)) (id : Nat) :
    (insertId id ids).Pairwise (· < ·) := by
  induction ids with
  | nil => simp [insertId]
  | cons head rest ih =>
      obtain ⟨hHead, hRest⟩ := List.pairwise_cons.mp hIds
      unfold insertId
      split_ifs with hLess hSame
      · refine List.pairwise_cons.mpr ⟨fun other hOther => ?_, hIds⟩
        rcases List.mem_cons.mp hOther with rfl | hLater
        · exact hLess
        · exact Nat.lt_trans hLess (hHead other hLater)
      · exact hIds
      · refine List.pairwise_cons.mpr ⟨fun other hOther => ?_, ih hRest⟩
        rcases mem_insertId.mp hOther with rfl | hLater
        · omega
        · exact hHead other hLater

/-- The running requests stand in increasing order, so none is there twice. -/
theorem pairwise_runningAfterRequest {running : List Nat} (h : running.Pairwise (· < ·))
    (frame : Request) : (runningAfterRequest running frame).Pairwise (· < ·) := by
  unfold runningAfterRequest
  split
  · exact h.filter _
  · exact pairwise_insertId h _

theorem pairwise_runningAfterReply {running : List Nat} (h : running.Pairwise (· < ·))
    (frame : ReplyFrame) : (runningAfterReply running frame).Pairwise (· < ·) := by
  unfold runningAfterReply
  split
  · exact h.filter _
  · exact h.filter _
  · exact h
  · exact h

theorem mem_runningAfterRequest_iff {id : Nat} {running : List Nat} {frame : Request} :
    id ∈ runningAfterRequest running frame ↔
      (Passage.taken frame).Starts id ∨ id ∈ running ∧ ¬ (Passage.taken frame).Ends id := by
  unfold runningAfterRequest
  split_ifs with hCancel
  · simp [mem_removeId, Passage.Starts, Passage.Ends, hCancel, eq_comm]
  · simp [mem_insertId, Passage.Starts, Passage.Ends, hCancel, eq_comm]

theorem mem_runningAfterReply_iff {id : Nat} {running : List Nat} {frame : ReplyFrame} :
    id ∈ runningAfterReply running frame ↔ id ∈ running ∧ ¬ (Passage.heard frame).Ends id := by
  rw [mem_runningAfterReply, Passage.Ends, not_and', Bool.not_eq_true]

/-- The worker has passed on what it has heard, and keeps the numbers of the requests a terminal reply
is owed for. When it goes, each of them gets an error. -/
structure Answers (past : List Passage) (connection : Connection) : Prop where
  held : connection.repliesHeld = true
  increasing : connection.running.Pairwise (· < ·)
  running : connection.phase ≠ .ended → ∀ id, id ∈ connection.running ↔ Owed id past
  replies : connection.phase ≠ .ended → connection.replies = heardReplies past
  closed : connection.phase = .ended → ∃ ids : List Nat, ids.Nodup ∧ (∀ id, id ∈ ids ↔ Owed id past) ∧
    connection.replies = heardReplies past ++ ids.map closedReply

theorem answers_fresh : Answers [] fresh where
  held := rfl
  increasing := .nil
  running _ id := by simp [fresh, not_owed_nil]
  replies _ := rfl
  closed hEnded := nomatch hEnded

namespace Answers

variable {past passages : List Passage} {connection next : Connection}

/-- The queue and the phase have no part in it, as long as the worker is there. -/
theorem of_eq (h : Answers past connection) (hHeld : next.repliesHeld = connection.repliesHeld)
    (hRunning : next.running = connection.running) (hReplies : next.replies = connection.replies)
    (hPhase : next.phase = .ended ↔ connection.phase = .ended) : Answers past next where
  held := hHeld.trans h.held
  increasing := hRunning ▸ h.increasing
  running hOpen := hRunning ▸ h.running (mt hPhase.mpr hOpen)
  replies hOpen := hReplies.trans (h.replies (mt hPhase.mpr hOpen))
  closed hEnded := hReplies ▸ h.closed (hPhase.mp hEnded)

/-- A frame that is only accepted does not change what is owed. -/
theorem accepted (h : Answers past connection) (frame : Request) :
    Answers (past ++ [.accepted frame]) connection := by
  have hOwed : ∀ id, Owed id (past ++ [.accepted frame]) ↔ Owed id past := fun id => by
    simp [owed_concat, Passage.Starts, Passage.Ends]
  have hHeard : heardReplies (past ++ [.accepted frame]) = heardReplies past :=
    (heardReplies_append _ _).trans (List.append_nil _)
  exact
    { held := h.held
      increasing := h.increasing
      running := by simpa only [hOwed] using h.running
      replies := by simpa only [hHeard] using h.replies
      closed := by simpa only [hOwed, hHeard] using h.closed }

/-- The worker takes a frame, and then the request of the frame runs or does not run. -/
theorem taken (h : Answers past connection) (hOpen : connection.phase ≠ .ended) (frame : Request)
    (hPhase : next.phase = connection.phase) (hHeld : next.repliesHeld = connection.repliesHeld)
    (hRunning : next.running = runningAfterRequest connection.running frame)
    (hReplies : next.replies = connection.replies) : Answers (past ++ [.taken frame]) next where
  held := hHeld.trans h.held
  increasing := hRunning ▸ pairwise_runningAfterRequest h.increasing frame
  running _ id := by
    rw [hRunning, mem_runningAfterRequest_iff, owed_concat, h.running hOpen id]
  replies _ := by
    rw [hReplies, h.replies hOpen, heardReplies_append]
    exact (List.append_nil _).symm
  closed hEnded := absurd (hPhase ▸ hEnded) hOpen

/-- A reply is passed on, and a final one ends its request. -/
theorem heard (h : Answers past connection) (hOpen : connection.phase ≠ .ended)
    (frame : ReplyFrame) : Answers (past ++ [.heard frame]) (connection.deliver frame) := by
  have hNever : ∀ id, ¬ (Passage.heard frame).Starts id := fun _ => id
  rw [deliver, if_pos h.held]
  exact
    { held := h.held
      increasing := pairwise_runningAfterReply h.increasing frame
      running := fun _ id => by
        simp only [mem_runningAfterReply_iff, owed_concat, h.running hOpen id, hNever, false_or]
      replies := fun _ => by
        rw [heardReplies_append, h.replies hOpen]
        rfl
      closed := nofun }

/-- The requests that run at the end are answered. -/
theorem finished (h : Answers past connection) (hPhase : connection.phase = .closing) :
    Answers past connection.finish := by
  have hOpen : connection.phase ≠ .ended := by simp [hPhase]
  exact
    { held := h.held
      increasing := .nil
      running := fun hEnded => absurd rfl hEnded
      replies := fun hEnded => absurd rfl hEnded
      closed := fun _ => ⟨connection.running, h.increasing.imp Nat.ne_of_lt, h.running hOpen, by
        simp [finish, h.held, h.replies hOpen]⟩ }

/-- Each passage keeps the running requests to those that are owed a terminal reply. -/
theorem change (h : Answers past connection) {event : Event}
    (hChange : Change connection event passages next) (hKept : event ≠ .dropReplies) :
    Answers (past ++ passages) next := by
  cases hChange with
  | @accepted frame => exact (h.accepted frame).of_eq rfl rfl rfl Iff.rfl
  | repliesGone => exact absurd rfl hKept
  | @taken frame rest hPhase _ => exact h.taken (by simp [hPhase]) frame rfl rfl rfl rfl
  | @heard message frame hPhase _ => exact h.heard (by simp [hPhase]) frame
  | finished hPhase =>
      rw [List.append_nil]
      exact h.finished hPhase
  | senderGone | idle =>
      rw [List.append_nil]
      exact h.of_eq rfl rfl rfl Iff.rfl
  | waits hPhase | leaves hPhase | skipped hPhase | broken hPhase =>
      rw [List.append_nil]
      exact h.of_eq rfl rfl rfl (by simp [hPhase])

end Answers

/-- In every run that keeps the receiving end, whoever is owed a terminal reply is running, or has
got an error when the worker went. -/
theorem answers_run {events : List Event} (hKept : Event.dropReplies ∉ events) :
    Answers (fresh.history events) (fresh.run events) :=
  run_keeps (fun _ hEvent _ _ _ _ hChange h =>
    h.change hChange fun hSame => hKept (hSame ▸ hEvent)) answers_fresh

/-- The errors at the end of a connection are exact. However requests, cancellations and replies come
in, those to unknown or reused numbers included, and whatever ends the connection: behind the replies
that the worker has heard, exactly those requests get an error, each one once, for which a terminal
reply is still owed. -/
theorem closedReplies_are_owed (events : List Event) (hKept : Event.dropReplies ∉ events)
    (hEnded : (fresh.run events).phase = .ended) :
    ∃ ids : List Nat, ids.Nodup ∧ (∀ id, id ∈ ids ↔ Owed id (fresh.history events)) ∧
      (fresh.run events).replies = heardReplies (fresh.history events) ++ ids.map closedReply :=
  (answers_run hKept).closed hEnded

/-- A request is answered and its number used again, another one is given up, and a reply comes to a
number that was never used, before the sender goes. -/
theorem closedReplies_are_owed_after_reuse :
    let schema : Request := ⟨1, ⟨"t"⟩, "getSchema", .null⟩
    let range : Request := ⟨2, ⟨"t"⟩, "range", .string "A"⟩
    let events : List Event := [.send schema, .send range, .send (.cancellation 2 ⟨"t"⟩), .writeNext,
      .writeNext, .writeNext, .writeNext,
      .read (.text "\x7b\"requestId\":1,\"type\":\"completed\"\x7d"), .send schema, .writeNext,
      .writeNext, .read (.text "\x7b\"requestId\":7,\"type\":\"completed\"\x7d"), .dropSender,
      .writeNext, .finish]
    Event.dropReplies ∉ events ∧ (fresh.run events).phase = .ended ∧
      ∃ ids : List Nat, ids.Nodup ∧ (∀ id, id ∈ ids ↔ Owed id (fresh.history events)) ∧
        (fresh.run events).replies =
          heardReplies (fresh.history events) ++ ids.map closedReply := by
  intro schema range events
  have hKept : Event.dropReplies ∉ events := by simp [events]
  have hEnded : (fresh.run events).phase = .ended := by decide +kernel
  exact ⟨hKept, hEnded, closedReplies_are_owed events hKept hEnded⟩

end RemoteTable.Connection
