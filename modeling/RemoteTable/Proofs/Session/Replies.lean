import RemoteTable.Proofs.Session.Pending

/-! Replies that wait in the queue of a session. The queue only grows while the session is used, a
request that is given up has a terminal reply in it, and replies are put into it only for requests
that have been issued. -/

namespace RemoteTable

/-- A reply that ends its request, whatever the request is for. -/
def Reply.IsTerminal : Reply → Prop
  | .next _ => False
  | .error _ | .completed | .cancelled => True

/-- The replies to a request among those in a queue, in order. -/
def repliesTo (id : Nat) (queue : List ReplyFrame) : List Reply :=
  (queue.filter (·.requestId == id)).map ReplyFrame.reply

section RepliesTo

variable {id : Nat}

theorem mem_repliesTo {queue : List ReplyFrame} {reply : Reply} :
    reply ∈ repliesTo id queue ↔ ⟨id, reply⟩ ∈ queue := by
  simp only [repliesTo, List.mem_map, List.mem_filter, beq_iff_eq]
  constructor
  · rintro ⟨frame, ⟨hFrame, rfl⟩, rfl⟩
    exact hFrame
  · intro hFrame
    exact ⟨_, ⟨hFrame, rfl⟩, rfl⟩

theorem repliesTo_cons_self (reply : Reply) (rest : List ReplyFrame) :
    repliesTo id (⟨id, reply⟩ :: rest) = reply :: repliesTo id rest := by
  simp [repliesTo]

theorem repliesTo_cons_of_ne {frame : ReplyFrame} (hOther : frame.requestId ≠ id)
    (rest : List ReplyFrame) : repliesTo id (frame :: rest) = repliesTo id rest := by
  simp [repliesTo, hOther]

theorem repliesTo_of_head {queue : List ReplyFrame} {reply : Reply}
    (hHead : queue.head? = some ⟨id, reply⟩) :
    repliesTo id queue = reply :: repliesTo id queue.tail := by
  obtain ⟨rest, rfl⟩ := List.head?_eq_some_iff.mp hHead
  exact repliesTo_cons_self reply rest

theorem repliesTo_of_head_ne {queue : List ReplyFrame} {frame : ReplyFrame}
    (hHead : queue.head? = some frame) (hOther : frame.requestId ≠ id) :
    repliesTo id queue = repliesTo id queue.tail := by
  obtain ⟨rest, rfl⟩ := List.head?_eq_some_iff.mp hHead
  exact repliesTo_cons_of_ne hOther rest

theorem repliesTo_append (first second : List ReplyFrame) :
    repliesTo id (first ++ second) = repliesTo id first ++ repliesTo id second := by
  simp [repliesTo]

/-- A reply still waits when the first reply of the queue has been taken, unless it was this one. -/
theorem mem_repliesTo_of_head {queue rest : List ReplyFrame} {frame : ReplyFrame} {reply : Reply}
    (hReply : reply ∈ repliesTo id queue) (hHead : queue.head? = some frame)
    (hOther : frame.requestId = id → frame.reply ≠ reply) (hRest : queue.tail ⊆ rest) :
    reply ∈ repliesTo id rest := by
  obtain ⟨left, rfl⟩ := List.head?_eq_some_iff.mp hHead
  rw [mem_repliesTo] at hReply ⊢
  rcases List.mem_cons.mp hReply with rfl | hLeft
  · exact absurd rfl (hOther rfl)
  · exact hRest hLeft

end RepliesTo

namespace Session

/-- The queue is only added to. -/
theorem Quiet.queue_grows {first second : Session} (h : Quiet first second) :
    first.queue <+: second.queue := by
  induction h with
  | refl => exact List.prefix_rfl
  | cancel _ id ih =>
      rw [queue_cancel]
      exact ih.trans (List.prefix_append _ _)
  | report _ message ih => exact ih

theorem Uses.queue_grows {first second : Session} (h : Uses first second) :
    first.queue <+: second.queue := by
  cases h with
  | quiet hQuiet => exact hQuiet.queue_grows
  | issue hQuiet call observer =>
      rw [snd_invoke]
      exact hQuiet.queue_grows.trans (List.prefix_append _ _)

/-- A terminal reply to the request waits to be handled. -/
def Ending (session : Session) (id : Nat) : Prop :=
  ∃ reply ∈ repliesTo id session.queue, reply.IsTerminal

variable {session other : Session} {id : Nat}

/-- Replies that come in do not take back an end. -/
theorem Ending.mono (h : session.Ending id) (hQueue : session.queue ⊆ other.queue) :
    other.Ending id := by
  obtain ⟨reply, hReply, hTerminal⟩ := h
  exact ⟨reply, mem_repliesTo.mpr (hQueue (mem_repliesTo.mp hReply)), hTerminal⟩

theorem Ending.uses (h : session.Ending id) (hUses : session.Uses other) : other.Ending id :=
  h.mono hUses.queue_grows.subset

/-- A request that is given up while it waits has a cancellation in the queue. -/
theorem cancelled_mem_repliesTo (hWaits : (session.pending? id).isSome) :
    .cancelled ∈ repliesTo id (session.cancel id).2.queue := by
  rw [mem_repliesTo, queue_cancel, if_pos hWaits]
  exact List.mem_append_right _ (List.mem_singleton_self _)

/-- A request that is cancelled is about to end. -/
theorem ending_cancel (hWaits : (session.pending? id).isSome) :
    (session.cancel id).2.Ending id :=
  ⟨.cancelled, cancelled_mem_repliesTo hWaits, trivial⟩

/-- A terminal reply still waits when the first reply of the queue has been taken, unless it was
this one. -/
theorem Ending.of_head {frame : ReplyFrame} (h : session.Ending id)
    (hQueue : session.queue.head? = some frame)
    (hFrame : frame.requestId = id → ¬ frame.reply.IsTerminal)
    (hRest : session.queue.tail ⊆ other.queue) : other.Ending id := by
  obtain ⟨reply, hReply, hTerminal⟩ := h
  have hOther : frame.requestId = id → frame.reply ≠ reply := fun hOwn hSame =>
    hFrame hOwn (hSame ▸ hTerminal)
  exact ⟨reply, mem_repliesTo_of_head hReply hQueue hOther hRest, hTerminal⟩

/-- Replies wait only to requests that have been issued. -/
def Known (session : Session) : Prop :=
  ∀ frame ∈ session.queue, frame.requestId < session.nextRequestId

/-- Requests that are given up have been issued. -/
theorem Known.quiet {session other : Session} (h : session.Known)
    (hIssued : ∀ id, (session.pending? id).isSome → id < session.nextRequestId)
    (hQuiet : session.Quiet other) : other.Known := by
  induction hQuiet with
  | refl => exact h
  | @cancel middle hPrior id ih =>
      intro frame hFrame
      rw [queue_cancel] at hFrame
      rw [nextRequestId_cancel]
      rcases List.mem_append.mp hFrame with hOld | hNew
      · exact ih frame hOld
      · split at hNew
        · rename_i hWaits
          obtain rfl := List.mem_singleton.mp hNew
          rw [pending?, hPrior.pending_eq] at hWaits
          rw [hPrior.nextRequestId_eq]
          exact hIssued id hWaits
        · cases hNew
  | report _ _ ih => exact ih

/-- An error for a refused request is a reply to the number just given. -/
theorem Known.uses {session other : Session} (h : session.Known)
    (hIssued : ∀ id, (session.pending? id).isSome → id < session.nextRequestId)
    (hUses : session.Uses other) : other.Known := by
  cases hUses with
  | quiet hQuiet => exact h.quiet hIssued hQuiet
  | @issue earlier hQuiet call observer =>
      intro frame hFrame
      rw [snd_invoke] at hFrame
      rw [nextRequestId_invoke]
      rcases List.mem_append.mp hFrame with hOld | hNew
      · exact Nat.lt_succ_of_lt (h.quiet hIssued hQuiet frame hOld)
      · split at hNew
        · cases hNew
        · obtain rfl := List.mem_singleton.mp hNew
          exact Nat.lt_succ_self _

/-- A request that waits although no reply to it is in the queue. -/
def Live (session : Session) (id : Nat) : Prop :=
  (session.pending? id).isSome ∧ repliesTo id session.queue = []

/-- A request that the transport has taken waits for its replies. -/
theorem Known.live_invoke {session : Session} (h : session.Known)
    (hNew : session.pending? session.nextRequestId = none)
    (hAccepts : ∀ place, session.accepts place = true) (call : Call) (observer : Observer) :
    (session.invoke call observer).2.Live session.nextRequestId := by
  constructor
  · rw [pending?_invoke call observer hNew, if_pos rfl]
    rfl
  · have hQueue : (session.invoke call observer).2.queue = session.queue := by
      rw [snd_invoke, hAccepts]
      exact List.append_nil _
    rw [hQueue, List.eq_nil_iff_forall_not_mem]
    intro reply hReply
    exact Nat.lt_irrefl _ (h _ (mem_repliesTo.mp hReply))

end Session

end RemoteTable
