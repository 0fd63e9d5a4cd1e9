import RemoteTable.Proofs.Page.Balance
import RemoteTable.Proofs.Page.Feeding

/-! Replies of many requests come through one queue. What the observer of a request is told is what
a receiver tells it that is fed with the replies to this request alone. -/

namespace RemoteTable.Page

/-- The replies to a request that an operation takes from the queue. -/
def heardIn (page : Page) (id : Nat) : Operation → List Reply
  | .handleNext =>
    match page.session.queue.head? with
    | some frame => if frame.requestId = id then [frame.reply] else []
    | none => []
  | _ => []

/-- The replies to a request that are taken from the queue in a run, in order. -/
def heard (page : Page) (id : Nat) : List Operation → List Reply
  | [] => []
  | operation :: rest => page.heardIn id operation ++ (page.step operation).heard id rest

/-- Replies are heard only when they are handled. -/
theorem heardIn_of_ne {operation : Operation} (hHandling : operation ≠ .handleNext) (page : Page)
    (id : Nat) : page.heardIn id operation = [] := by
  cases operation with
  | handleNext => exact absurd rfl hHandling
  | _ => rfl

/-- A request does not hear the replies to others. -/
theorem heardIn_of_other {page : Page} {id : Nat}
    (hOther : ∀ frame, page.session.queue.head? = some frame → frame.requestId ≠ id) :
    page.heardIn id .handleNext = [] := by
  cases hHead : page.session.queue.head? with
  | none => simp [heardIn, hHead]
  | some frame => simp [heardIn, hHead, hOther frame hHead]

/-- A request of the page is where its receiver by itself would be: the receiver waits in the table
as long as it has not finished. -/
structure Follows (page : Page) (id : Nat) (receiver : Receiver) : Prop where
  issued : id < page.session.nextRequestId
  requestId : receiver.requestId = id
  waits : receiver.finished = false →
    ∃ objectId, page.session.pending? id = some ⟨objectId, receiver⟩
  gone : receiver.finished = true → page.session.pending? id = none

namespace Follows

variable {page next : Page} {id : Nat} {receiver : Receiver}

theorem of_eq (h : page.Follows id receiver)
    (hPending : next.session.pending? id = page.session.pending? id)
    (hNext : page.session.nextRequestId ≤ next.session.nextRequestId) :
    next.Follows id receiver where
  issued := Nat.lt_of_lt_of_le h.issued hNext
  requestId := h.requestId
  waits := hPending ▸ h.waits
  gone := hPending ▸ h.gone

/-- A request that waits has the receiver that is followed. -/
theorem receiver_eq (h : page.Follows id receiver) {pending : Pending}
    (hPending : page.session.pending? id = some pending) :
    receiver.finished = false ∧ pending.receiver = receiver := by
  cases hActive : receiver.finished with
  | true =>
      rw [h.gone hActive] at hPending
      cases hPending
  | false =>
      obtain ⟨objectId, hWaits⟩ := h.waits hActive
      rw [hWaits] at hPending
      cases hPending
      exact ⟨rfl, rfl⟩

/-- The receiver of a request that does not wait has finished. -/
theorem finished_of_none (h : page.Follows id receiver)
    (hPending : page.session.pending? id = none) : receiver.finished = true := by
  cases hActive : receiver.finished with
  | true => rfl
  | false =>
      obtain ⟨objectId, hWaits⟩ := h.waits hActive
      rw [hWaits] at hPending
      cases hPending

end Follows

section Turn

variable {page next : Page}

/-- Numbers are given in increasing order, also by observers at the end of their requests. -/
theorem nextRequestId_le_turn (h : page.session.Balanced) (hTurn : Turn page next) :
    page.session.nextRequestId ≤ next.session.nextRequestId := by
  cases hTurn with
  | idle | unknown => exact Nat.le_refl _
  | @accepted id result pending done payload hQueue hPending hDecodes =>
      rw [nextRequestId_resume]
      exact Nat.le_refl _
  | @ended frame pending error hQueue hPending hEnds =>
      exact (uses_finish_concluded h hPending error).nextRequestId_le

/-- Only the owner of the handled reply is told anything, and it waited for that. -/
theorem journal_turn (h : page.session.Balanced) (hTurn : Turn page next) :
    ∃ owner said, next.journal = page.journal ++ said.map (JournalEntry.mk owner) ∧
      (said = [] ∨ owner ∈ page.session.pending.map Prod.fst ∧
        page.session.queue.head?.map ReplyFrame.requestId = some owner) := by
  cases hTurn with
  | idle | unknown => exact ⟨0, [], (List.append_nil _).symm, Or.inl rfl⟩
  | @accepted id result pending done payload hQueue hPending hDecodes =>
      have hEntry := Session.mem_of_pending? hPending
      have hOwner := (h.active _ hEntry).2
      refine ⟨id, [.next payload], ?_, Or.inr ⟨List.mem_map_of_mem hEntry, by simp [hQueue]⟩⟩
      rw [resume, Receiver.journal_accept, hOwner]
      rfl
  | @ended frame pending error hQueue hPending hEnds =>
      have hEntry := Session.mem_of_pending? hPending
      obtain ⟨hActive, hOwner⟩ := h.active _ hEntry
      refine ⟨frame.requestId, [.completed], ?_,
        Or.inr ⟨List.mem_map_of_mem hEntry, by simp [hQueue]⟩⟩
      rw [Receiver.journal_finish _ hActive, hOwner]
      rfl

/-- A reply to another request does not matter. -/
theorem pending?_turn_of_ne (h : page.session.Balanced) (hTurn : Turn page next) {id : Nat}
    (hIssued : id < page.session.nextRequestId)
    (hOther : ∀ frame, page.session.queue.head? = some frame → frame.requestId ≠ id) :
    next.session.pending? id = page.session.pending? id := by
  cases hTurn with
  | idle | unknown => rfl
  | @accepted key result pending done payload hQueue hPending hDecodes =>
      exact pending?_resume_of_ne _ done payload (hOther _ hQueue).symm
  | @ended frame pending error hQueue hPending hEnds =>
      have hNe : id ≠ frame.requestId := (hOther _ hQueue).symm
      have hRest : (page.concluded frame.requestId pending.receiver error).session.pending? id =
          page.session.pending? id := by rw [pending?_concluded h, if_neg hNe]
      exact ((uses_finish_concluded h hPending error).pending?_eq hIssued).trans hRest

/-- The first waiting reply is one to this request, or it is not. -/
theorem head_cases (page : Page) (id : Nat) :
    (∃ reply, page.session.queue.head? = some ⟨id, reply⟩) ∨
      ∀ frame, page.session.queue.head? = some frame → frame.requestId ≠ id := by
  by_cases hOwn : ∃ reply, page.session.queue.head? = some ⟨id, reply⟩
  · exact Or.inl hOwn
  · exact Or.inr fun frame hHead hSame => hOwn ⟨frame.reply, hSame ▸ hHead⟩

/-- A request that does not wait will not wait again. -/
theorem pending?_turn_of_none (h : page.session.Balanced) (hTurn : Turn page next) {id : Nat}
    (hIssued : id < page.session.nextRequestId) (hNone : page.session.pending? id = none) :
    next.session.pending? id = none := by
  rcases page.head_cases id with ⟨reply, hHead⟩ | hOther
  · cases hTurn with
    | idle | unknown => exact hNone
    | accepted hQueue hPending _ | ended hQueue hPending _ =>
        cases hHead.symm.trans hQueue
        cases hNone.symm.trans hPending
  · rw [pending?_turn_of_ne h hTurn hIssued hOther, hNone]

/-- A reply to the followed request changes its entry as it changes the receiver by itself. -/
theorem follows_turn (h : page.session.Balanced) (hTurn : Turn page next) {id : Nat}
    {reply : Reply} {receiver : Receiver} (hFollows : page.Follows id receiver)
    (hOwn : page.session.queue.head? = some ⟨id, reply⟩) :
    next.Follows id (receiver.react reply).1 ∧
      next.journalOf id = page.journalOf id ++ (receiver.react reply).2 := by
  have hNext := nextRequestId_le_turn h hTurn
  have hIssued := Nat.lt_of_lt_of_le hFollows.issued hNext
  have hName : (receiver.react reply).1.requestId = id :=
    (receiver.requestId_react reply).trans hFollows.requestId
  cases hTurn with
  | idle hEmpty => simp [hEmpty] at hOwn
  | unknown hQueue hUnknown =>
      rw [hQueue, Option.some.injEq] at hOwn
      subst hOwn
      rw [Receiver.react_of_finished (hFollows.finished_of_none hUnknown) reply]
      exact ⟨hFollows.of_eq rfl hNext, (List.append_nil _).symm⟩
  | @accepted key result pending done payload hQueue hPending hDecodes =>
      rw [hQueue, Option.some.injEq, ReplyFrame.mk.injEq] at hOwn
      obtain ⟨rfl, rfl⟩ := hOwn
      obtain ⟨hActive, rfl⟩ := hFollows.receiver_eq hPending
      rw [Receiver.react_of_decodes hActive hDecodes] at hName ⊢
      refine ⟨⟨hIssued, hName, fun _ => ⟨pending.objectId, ?_⟩, fun hFinished => ?_⟩, ?_⟩
      · exact pending?_resume_self _ done payload h.keys
      · exact absurd (hActive.symm.trans hFinished) Bool.false_ne_true
      · have hJournal : (resume pending.objectId key (pending.receiver.accept done payload
            (page.popped.withdrawn key))).journal =
              page.journal ++ [.next payload].map (JournalEntry.mk key) := by
          rw [resume, Receiver.journal_accept, hFollows.requestId]
          rfl
        rw [journalOf_append hJournal, if_pos rfl]
  | @ended frame pending error hQueue hPending hEnds =>
      rw [hQueue, Option.some.injEq] at hOwn
      subst hOwn
      obtain ⟨hActive, rfl⟩ := hFollows.receiver_eq hPending
      rw [Receiver.react_of_ends hActive hEnds] at hName ⊢
      refine ⟨⟨hIssued, hName, fun hOpen => absurd hOpen.symm Bool.false_ne_true, fun _ => ?_⟩, ?_⟩
      · exact pending?_finish_self h hPending error
      · have hJournal : (pending.receiver.finish
            ((page.popped.withdrawn id).withError error)).2.journal =
              page.journal ++ [.completed].map (JournalEntry.mk id) := by
          rw [Receiver.journal_finish _ hActive, hFollows.requestId]
          rfl
        rw [journalOf_append hJournal, if_pos rfl]

/-- A reply to another request leaves the followed one where it is. -/
theorem follows_turn_of_other (h : page.session.Balanced) (hTurn : Turn page next) {id : Nat}
    {receiver : Receiver} (hFollows : page.Follows id receiver)
    (hOther : ∀ frame, page.session.queue.head? = some frame → frame.requestId ≠ id) :
    next.Follows id receiver ∧ next.journalOf id = page.journalOf id ++ [] := by
  refine ⟨hFollows.of_eq (pending?_turn_of_ne h hTurn hFollows.issued hOther)
    (nextRequestId_le_turn h hTurn), ?_⟩
  obtain ⟨owner, said, hJournal, hSaid⟩ := journal_turn h hTurn
  rw [journalOf_append hJournal]
  congr 1
  rcases hSaid with rfl | ⟨-, hHead⟩
  · exact ite_self _
  · obtain ⟨frame, hFrame, rfl⟩ := Option.map_eq_some_iff.mp hHead
    exact if_neg (hOther frame hFrame)

/-- A reply that is handled issues a request only when another one ends. -/
theorem issue_of_turn (h : page.session.Balanced) (hTurn : Turn page next) {id : Nat}
    (hOld : page.session.nextRequestId ≤ id) (hNew : id < next.session.nextRequestId) :
    ∃ earlier call observer, next.session = (Session.invoke earlier call observer).2 ∧
      earlier.nextRequestId = id := by
  cases hTurn with
  | idle | unknown => exact absurd hNew (Nat.not_lt.mpr hOld)
  | @accepted key result pending done payload hQueue hPending hDecodes =>
      rw [nextRequestId_resume] at hNew
      exact absurd hNew (Nat.not_lt.mpr hOld)
  | @ended frame pending error hQueue hPending hEnds =>
      exact (uses_finish_concluded h hPending error).issue_of_lt hOld hNew

end Turn

section Step

variable {page : Page} (h : page.session.Balanced)

include h

/-- No operation gives a number back. -/
theorem nextRequestId_le_step (operation : Operation) :
    page.session.nextRequestId ≤ (page.step operation).session.nextRequestId := by
  rcases page.step_cases operation with rfl | ⟨frame, rfl⟩ | ⟨-, hUses⟩
  · exact nextRequestId_le_turn h (turn_of_balanced h)
  · exact Nat.le_refl _
  · exact hUses.session.nextRequestId_le

/-- An operation issues at most one request, and issues it last. -/
theorem issue_of_lt {operation : Operation} {id : Nat} (hOld : page.session.nextRequestId ≤ id)
    (hNew : id < (page.step operation).session.nextRequestId) :
    ∃ earlier call observer,
      (page.step operation).session = (Session.invoke earlier call observer).2 ∧
        earlier.nextRequestId = id := by
  rcases page.step_cases operation with rfl | ⟨frame, rfl⟩ | ⟨-, hUses⟩
  · exact issue_of_turn h (turn_of_balanced h) hOld hNew
  · exact absurd hNew (Nat.not_lt.mpr hOld)
  · exact hUses.session.issue_of_lt hOld hNew

/-- Observers are told something only about requests that were issued before. -/
theorem journal_step (operation : Operation)
    (hJournal : ∀ entry ∈ page.journal, entry.requestId < page.session.nextRequestId) :
    ∀ entry ∈ (page.step operation).journal, entry.requestId < page.session.nextRequestId := by
  rcases page.step_cases operation with rfl | ⟨frame, rfl⟩ | ⟨-, hUses⟩
  · intro entry hEntry
    obtain ⟨owner, said, hAppended, hSaid⟩ := journal_turn h (turn_of_balanced h)
    rw [hAppended] at hEntry
    rcases List.mem_append.mp hEntry with hOld | hNew
    · exact hJournal entry hOld
    · obtain ⟨observation, hTold, rfl⟩ := List.mem_map.mp hNew
      rcases hSaid with rfl | ⟨hOwner, -⟩
      · cases hTold
      · exact h.key_lt hOwner
  · exact hJournal
  · rw [hUses.journal]
    exact hJournal

/-- One operation changes a request as its replies, if there are any, change the receiver by
itself. -/
theorem follows_step {id : Nat} {receiver : Receiver} (hFollows : page.Follows id receiver)
    (operation : Operation) :
    (page.step operation).Follows id (receiver.after (page.heardIn id operation)) ∧
      (page.step operation).journalOf id =
        page.journalOf id ++ receiver.said (page.heardIn id operation) := by
  rcases page.step_cases operation with rfl | ⟨frame, rfl⟩ | ⟨hHandling, hUses⟩
  · have hTurn := turn_of_balanced h
    rcases page.head_cases id with ⟨reply, hHead⟩ | hOther
    · have hHeard : page.heardIn id .handleNext = [reply] := by simp [heardIn, hHead]
      rw [hHeard, Receiver.said, Receiver.said, List.append_nil]
      exact follows_turn h hTurn hFollows hHead
    · rw [heardIn_of_other hOther]
      exact follows_turn_of_other h hTurn hFollows hOther
  · exact ⟨hFollows.of_eq rfl (Nat.le_refl _), (List.append_nil _).symm⟩
  · rw [heardIn_of_ne hHandling]
    refine ⟨hFollows.of_eq (hUses.session.pending?_eq hFollows.issued)
      hUses.session.nextRequestId_le, ?_⟩
    rw [journalOf, hUses.journal]
    exact (List.append_nil _).symm

end Step

section Run

variable {page : Page} (h : page.session.Balanced)

include h

/-- In a run, the receiver of a request becomes what the replies it hears make of it, and its
observer is told what it says at them. Other requests have no part in either. -/
theorem follows_run {id : Nat} {receiver : Receiver} (hFollows : page.Follows id receiver)
    (operations : List Operation) :
    (page.run operations).Follows id (receiver.after (page.heard id operations)) ∧
      (page.run operations).journalOf id =
        page.journalOf id ++ receiver.said (page.heard id operations) := by
  induction operations generalizing page receiver with
  | nil => exact ⟨hFollows, (List.append_nil _).symm⟩
  | cons operation rest ih =>
      obtain ⟨hNext, hTold⟩ := follows_step h hFollows operation
      obtain ⟨hLast, hRest⟩ := ih (balanced_step h operation) hNext
      rw [heard, Receiver.after_append, Receiver.said_append]
      refine ⟨hLast, ?_⟩
      rw [run_cons, hRest, hTold, List.append_assoc]

/-- A number that is handed out in a run is handed out by one of its operations. -/
theorem exists_issue {id : Nat} {operations : List Operation}
    (hOld : page.session.nextRequestId ≤ id)
    (hNew : id < (page.run operations).session.nextRequestId) :
    ∃ before operation after, operations = before ++ operation :: after ∧
      (page.run before).session.nextRequestId ≤ id ∧
      id < (page.run (before ++ [operation])).session.nextRequestId := by
  induction operations generalizing page with
  | nil => exact absurd hNew (Nat.not_lt.mpr hOld)
  | cons first rest ih =>
      by_cases hFirst : id < (page.step first).session.nextRequestId
      · exact ⟨[], first, rest, rfl, hOld, hFirst⟩
      · obtain ⟨before, operation, after, rfl, hBefore, hAfter⟩ :=
          ih (balanced_step h first) (Nat.not_lt.mp hFirst) hNew
        exact ⟨first :: before, operation, after, rfl, hBefore, hAfter⟩

/-- Observers are told of requests that have been issued only. -/
theorem journal_run (operations : List Operation)
    (hJournal : ∀ entry ∈ page.journal, entry.requestId < page.session.nextRequestId) :
    ∀ entry ∈ (page.run operations).journal,
      entry.requestId < (page.run operations).session.nextRequestId := by
  refine run_keeps (motive := fun other => ∀ entry ∈ other.journal,
    entry.requestId < other.session.nextRequestId) ?_ h hJournal
  intro operation _ before hBalanced hBefore entry hEntry
  exact Nat.lt_of_lt_of_le (journal_step hBalanced operation hBefore entry hEntry)
    (nextRequestId_le_step hBalanced operation)

/-- The next number of a session never falls. -/
theorem nextRequestId_le_run (operations : List Operation) :
    page.session.nextRequestId ≤ (page.run operations).session.nextRequestId := by
  refine run_keeps (motive := fun other =>
    page.session.nextRequestId ≤ other.session.nextRequestId) ?_ h (Nat.le_refl _)
  intro operation _ before hBalanced hBefore
  exact Nat.le_trans hBefore (nextRequestId_le_step hBalanced operation)

end Run

/-- The operation ends with issuing a request, and this is the new receiver of the request. -/
def Issues (page : Page) (operation : Operation) (id : Nat) (receiver : Receiver) : Prop :=
  ∃ earlier call observer, earlier.nextRequestId = id ∧
    (page.step operation).session = (Session.invoke earlier call observer).2 ∧
    receiver = earlier.newReceiver observer

/-- A request that is issued is followed from then on. -/
theorem follows_of_issues {page : Page} (h : page.session.Balanced) {operation : Operation}
    {id : Nat} {receiver : Receiver} (hIssues : page.Issues operation id receiver) :
    (page.step operation).Follows id receiver := by
  obtain ⟨earlier, call, observer, rfl, hIssue, rfl⟩ := hIssues
  have hKeys := (balanced_step h operation).keys
  refine ⟨?_, rfl, fun _ => ⟨call.objectId, ?_⟩, fun hFinished => nomatch hFinished⟩
  · rw [hIssue, Session.nextRequestId_invoke]
    exact Nat.lt_succ_self _
  · rw [Session.pending?_eq_some_iff hKeys, hIssue, Session.pending_invoke]
    exact List.mem_append_right _ (List.mem_singleton_self _)

/-- Nobody is told anything about a request when it is issued. -/
theorem journalOf_step_of_lt {page : Page} (h : page.session.Balanced)
    (hJournal : ∀ entry ∈ page.journal, entry.requestId < page.session.nextRequestId)
    (operation : Operation) {id : Nat} (hOld : page.session.nextRequestId ≤ id) :
    (page.step operation).journalOf id = [] := by
  rw [journalOf, List.map_eq_nil_iff, List.filter_eq_nil_iff]
  intro entry hEntry hOwn
  have hBelow := journal_step h operation hJournal entry hEntry
  have hSame : entry.requestId = id := beq_iff_eq.mp hOwn
  omega

/-- Demultiplexing is faithful. In every run of a page, over any transport and with any replies in
any order, each request is issued by one of the operations, and its observer is told exactly what a
new receiver tells it that is fed alone with the replies to this request that are handled
afterwards: values, then at most once that the request is complete, and nothing more. -/
theorem journalOf_eq_feed (accepts : Nat → Bool) (operations : List Operation) (id : Nat)
    (hFirst : 1 ≤ id) (hIssued : id < ((opened accepts).run operations).session.nextRequestId) :
    ∃ before operation after receiver, operations = before ++ operation :: after ∧
      ((opened accepts).run before).Issues operation id receiver ∧
      ((opened accepts).run operations).journalOf id =
        (receiver.feed .fresh
          (((opened accepts).run (before ++ [operation])).heard id after)).2.journalOf id ∧
      ∃ (values : List Payload) (last : List Observation),
        ((opened accepts).run operations).journalOf id = values.map .next ++ last ∧
          (last = [] ∨ last = [.completed]) := by
  have hStart : (opened accepts).session.Balanced := .fresh accepts
  obtain ⟨before, operation, after, rfl, hBefore, hAfter⟩ := exists_issue hStart hFirst hIssued
  have hPrior := balanced_run hStart before
  rw [run_concat] at hAfter
  obtain ⟨earlier, call, observer, hIssue, rfl⟩ := issue_of_lt hPrior hBefore hAfter
  have hIssues : ((opened accepts).run before).Issues operation earlier.nextRequestId
      (earlier.newReceiver observer) := ⟨earlier, call, observer, rfl, hIssue, rfl⟩
  have hSilent := journalOf_step_of_lt hPrior
    (journal_run hStart before fun entry hEntry => absurd hEntry List.not_mem_nil) operation hBefore
  have hTold := (follows_run (balanced_step hPrior operation) (follows_of_issues hPrior hIssues)
    after).2
  rw [hSilent, List.nil_append] at hTold
  obtain ⟨values, last, hShape, hLast⟩ := (earlier.newReceiver observer).said_shape
    ((((opened accepts).run before).step operation).heard earlier.nextRequestId after)
  refine ⟨before, operation, after, _, rfl, hIssues, ?_, values, last, ?_, hLast⟩
  · rw [run_append, run_cons, run_concat, hTold]
    exact ((earlier.newReceiver observer).journalOf_feed _).symm
  · rw [run_append, run_cons, hTold, hShape]

/-- Two requests whose replies come mixed with each other and with those to a request that was never
issued, and one reply that comes too late. -/
theorem journalOf_eq_feed_of_mixed_replies :
    let operations : List Operation := [.invoke (.bare rootId "list") (.recorder .json false),
      .start, .receive ⟨1, .next .null⟩, .receive ⟨2, .error "gone"⟩, .receive ⟨7, .completed⟩,
      .receive ⟨1, .completed⟩, .receive ⟨1, .next .null⟩, .handleNext, .handleNext, .handleNext,
      .handleNext, .handleNext]
    let final := (opened fun _ => true).run operations
    1 ≤ 1 ∧ 1 < final.session.nextRequestId ∧
      ∃ before operation after receiver, operations = before ++ operation :: after ∧
        ((opened fun _ => true).run before).Issues operation 1 receiver ∧
        final.journalOf 1 =
          (receiver.feed .fresh
            (((opened fun _ => true).run (before ++ [operation])).heard 1 after)).2.journalOf 1 ∧
        ∃ (values : List Payload) (last : List Observation),
          final.journalOf 1 = values.map .next ++ last ∧ (last = [] ∨ last = [.completed]) := by
  intro operations final
  have hIssued : 1 < final.session.nextRequestId := by decide
  exact ⟨Nat.le_refl 1, hIssued, journalOf_eq_feed _ operations 1 (Nat.le_refl 1) hIssued⟩

end RemoteTable.Page
