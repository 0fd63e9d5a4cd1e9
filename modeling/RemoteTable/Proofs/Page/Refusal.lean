import RemoteTable.Proofs.Page.Cancellation
import RemoteTable.Proofs.Session.Refusal

/-! A request of which the transport has refused a frame ends when the queue is worked off, also if
that has happened only on the way. What is left then has been taken by the transport. -/

namespace RemoteTable.Page

section Turn

variable {page next : Page}

/-- The reply that is handled accounts for the request that it ends. -/
theorem accounted_concluded (h : page.session.Balanced) (hAccounted : page.session.Accounted)
    {frame : ReplyFrame} (hQueue : page.session.queue.head? = some frame) (receiver : Receiver)
    (error : Option String) : (page.concluded frame.requestId receiver error).session.Accounted := by
  have hLeft := pending?_concluded h frame.requestId receiver error
  refine hAccounted.of_left rfl rfl (fun id pending hWaits => ⟨pending, ?_, rfl⟩)
    fun id hWaits hGivenUp => hGivenUp.of_head hQueue (fun hOwn => ?_) (List.Subset.refl _)
  · rw [hLeft] at hWaits
    split at hWaits
    · cases hWaits
    · exact hWaits
  · rw [hLeft, if_pos hOwn.symm] at hWaits
    cases hWaits

/-- The error or the cancellation of a request leaves the queue only when the request ends. -/
theorem accounted_turn (h : page.session.Balanced) (hTurn : Turn page next)
    (hAccounted : page.session.Accounted) : next.session.Accounted := by
  cases hTurn with
  | idle => exact hAccounted
  | @unknown frame hQueue hUnknown =>
      refine hAccounted.of_left rfl rfl (fun id pending hWaits => ⟨pending, hWaits, rfl⟩)
        fun id hWaits hGivenUp => hGivenUp.of_head hQueue (fun hOwn => ?_) (List.Subset.refl _)
      have hNone : page.popped.session.pending? id = none := hOwn ▸ hUnknown
      rw [hNone] at hWaits
      cases hWaits
  | @accepted id result pending done payload hQueue hPending hDecodes =>
      have hTail := queue_resume (page.popped.withdrawn id) pending.objectId id pending.receiver done
        payload
      refine hAccounted.of_left (attempts_resume _ _ _ _ _ _) (nextRequestId_resume _ _ _ _ _ _)
        (fun key waiting hWaits => ?_) fun key _ hGivenUp =>
          hGivenUp.of_head hQueue (fun _ hGivesUp => hGivesUp) (hTail ▸ List.Subset.refl _)
      by_cases hOwn : key = id
      · subst hOwn
        rw [pending?_resume_self _ done payload h.keys, Option.some.injEq] at hWaits
        subst hWaits
        exact ⟨pending, hPending, rfl⟩
      · rw [pending?_resume_of_ne _ done payload hOwn] at hWaits
        exact ⟨waiting, hWaits, rfl⟩
  | @ended frame pending error hQueue hPending hEnds =>
      exact (accounted_concluded h hAccounted hQueue pending.receiver error).uses
        (uses_finish_concluded h hPending error)

end Turn

/-- A frame that is refused is accounted for by a reply in the same operation. -/
theorem accounted_step {page : Page} (h : page.session.Balanced)
    (hAccounted : page.session.Accounted) (operation : Operation) :
    (page.step operation).session.Accounted := by
  rcases page.step_cases operation with rfl | ⟨frame, rfl⟩ | ⟨-, hUses⟩
  · exact accounted_turn h (turn_of_balanced h) hAccounted
  · exact hAccounted.of_queue rfl rfl rfl (List.subset_append_left _ _)
  · exact hAccounted.uses hUses.session

/-- In every run, requests with a refused frame have their end in the queue. -/
theorem accounted_run {page : Page} (h : page.session.Balanced)
    (hAccounted : page.session.Accounted) (operations : List Operation) :
    (page.run operations).session.Accounted :=
  run_keeps (motive := fun other => other.session.Accounted)
    (fun operation _ _ hBalanced hBefore => accounted_step hBalanced hBefore operation) h hAccounted

section Run

variable (accepts : Nat → Bool) (operations : List Operation) {id : Nat}

/-- Each request that has been issued is where its receiver alone would be after some replies. -/
theorem exists_follows_run (hFirst : 1 ≤ id)
    (hIssued : id < ((opened accepts).run operations).session.nextRequestId) :
    ∃ (receiver : Receiver) (replies : List Reply), receiver.finished = false ∧
      ((opened accepts).run operations).Follows id (receiver.after replies) ∧
      ((opened accepts).run operations).journalOf id = receiver.said replies := by
  have hStart : (opened accepts).session.Balanced := .fresh accepts
  obtain ⟨before, operation, after, rfl, hBefore, hAfter⟩ := exists_issue hStart hFirst hIssued
  have hPrior := balanced_run hStart before
  rw [run_concat] at hAfter
  obtain ⟨earlier, call, observer, hIssue, rfl⟩ := issue_of_lt hPrior hBefore hAfter
  have hSilent := journalOf_step_of_lt hPrior
    (journal_run hStart before fun entry hEntry => absurd hEntry List.not_mem_nil) operation hBefore
  obtain ⟨hFollows, hTold⟩ := follows_run (balanced_step hPrior operation)
    (follows_of_issues hPrior ⟨earlier, call, observer, rfl, hIssue, rfl⟩) after
  rw [run_append, run_cons]
  refine ⟨earlier.newReceiver observer, _, rfl, hFollows, ?_⟩
  rw [hTold, hSilent, List.nil_append]

/-- An observer has been told of the end of its request once if the request waits no longer, and not
yet otherwise. -/
theorem count_completed_journalOf (hFirst : 1 ≤ id)
    (hIssued : id < ((opened accepts).run operations).session.nextRequestId) :
    (((opened accepts).run operations).journalOf id).count .completed =
      if (((opened accepts).run operations).session.pending? id).isSome then 0 else 1 := by
  obtain ⟨receiver, replies, hActive, hFollows, hTold⟩ :=
    exists_follows_run accepts operations hFirst hIssued
  rw [hTold, Receiver.count_completed_said hActive]
  cases hFinished : (receiver.after replies).finished with
  | true => simp [hFollows.gone hFinished]
  | false =>
      obtain ⟨objectId, hWaits⟩ := hFollows.waits hFinished
      simp [hWaits]

end Run

/-- The request has ended: its observer has been told so once, and its bar is gone. -/
structure Finished (page : Page) (id : Nat) : Prop where
  pending : page.session.pending? id = none
  told : (page.journalOf id).count .completed = 1
  bar : id ∉ page.session.progress.bars.map ProgressBar.requestId

/-- The transport has taken every frame of each request that waits, and each request of which it has
refused a frame has ended. -/
structure Cleared (page : Page) : Prop where
  taken : ∀ id pending, page.session.pending? id = some pending →
    page.session.Handed id pending.objectId ∧
      ∀ attempt ∈ page.session.attemptsFor id, attempt.accepted = true
  finished : ∀ attempt ∈ page.session.attempts, attempt.accepted = false →
    page.Finished attempt.frame.requestId

section Run

variable {accepts : Nat → Bool} {operations : List Operation}

theorem balanced_opened_run : ((opened accepts).run operations).session.Balanced :=
  balanced_run (.fresh accepts) operations

/-- An issued request that waits no longer has been told its end once. -/
theorem finished_of_none {id : Nat} (hFirst : 1 ≤ id)
    (hIssued : id < ((opened accepts).run operations).session.nextRequestId)
    (hNone : ((opened accepts).run operations).session.pending? id = none) :
    ((opened accepts).run operations).Finished id where
  pending := hNone
  told := by
    rw [count_completed_journalOf accepts operations hFirst hIssued, hNone]
    rfl
  bar hShown :=
    Session.pending?_eq_none_iff.mp hNone ((balanced_opened_run.shown id).mp hShown)

theorem accounted_opened_run : ((opened accepts).run operations).session.Accounted :=
  accounted_run (.fresh accepts) (.fresh accepts) operations

/-- Working off the queue leads to a page that a run leads to. -/
theorem pump_opened_run : ((opened accepts).run operations).pump.2 = (opened accepts).run
    (operations ++
      List.replicate ((opened accepts).run operations).pumpBound .handleNext) := by
  rw [run_append, pump_eq_run]

/-- Nothing is owed for a refused frame as soon as the queue is empty. -/
theorem cleared_of_empty (hEmpty : ((opened accepts).run operations).session.queue = []) :
    ((opened accepts).run operations).Cleared := by
  have hAccounted : ((opened accepts).run operations).session.Accounted := accounted_opened_run
  have hGone : ∀ attempt ∈ ((opened accepts).run operations).session.attempts,
      attempt.accepted = false →
      ((opened accepts).run operations).session.pending? attempt.frame.requestId = none := by
    intro attempt hAttempt hRefused
    rw [← Option.not_isSome_iff_eq_none]
    intro hWaits
    obtain ⟨reply, hReply, -⟩ := hAccounted.refused attempt hAttempt hRefused hWaits
    rw [mem_repliesTo, hEmpty] at hReply
    cases hReply
  constructor
  · intro id pending hPending
    refine ⟨hAccounted.handed id pending hPending, fun attempt hAttempt => ?_⟩
    obtain ⟨hMem, rfl⟩ := Session.mem_attemptsFor.mp hAttempt
    rw [← Bool.not_eq_false]
    intro hRefused
    cases (hGone attempt hMem hRefused).symm.trans hPending
  · intro attempt hAttempt hRefused
    obtain ⟨hFirst, hIssued⟩ := hAccounted.numbered attempt hAttempt
    exact finished_of_none hFirst hIssued (hGone attempt hAttempt hRefused)

/-- When the queue has been worked off, no request with a refused frame waits. -/
theorem cleared_pump : ((opened accepts).run operations).pump.2.Cleared := by
  have hEmpty : ((opened accepts).run operations).pump.2.session.queue = [] :=
    queue_pump balanced_opened_run
  rw [pump_opened_run] at hEmpty ⊢
  exact cleared_of_empty hEmpty

/-- A request that is cancelled ends when the queue is worked off. -/
theorem finished_pump_cancel {id : Nat}
    (hWaits : (((opened accepts).run operations).session.pending? id).isSome) :
    (((opened accepts).run operations).cancel id).2.pump.2.Finished id := by
  have hCancel : (((opened accepts).run operations).cancel id).2 =
      (opened accepts).run (operations ++ [.cancel id]) := by
    rw [run_concat]
    rfl
  obtain ⟨pending, hPending⟩ := Option.isSome_iff_exists.mp hWaits
  obtain ⟨hFirst, hIssued⟩ := accounted_opened_run.issued hPending
  have hBalanced : (((opened accepts).run operations).cancel id).2.session.Balanced :=
    hCancel ▸ balanced_opened_run
  have hBelow : id < (((opened accepts).run operations).cancel id).2.session.nextRequestId :=
    Nat.lt_of_lt_of_eq hIssued (Session.nextRequestId_cancel _ id).symm
  have hNone := pending?_pump_of_ending hBalanced hBelow (Or.inr (Session.ending_cancel hWaits))
  have hLast := Nat.lt_of_lt_of_le hBelow (nextRequestId_le_run hBalanced
    (List.replicate (((opened accepts).run operations).cancel id).2.pumpBound .handleNext))
  rw [← pump_eq_run] at hLast
  rw [hCancel, pump_opened_run] at hNone hLast ⊢
  exact finished_of_none hFirst hLast hNone

end Run

/-- A refused frame always ends its request. In every run of a page, whichever frames the transport
refuses, requests and cancellations alike, each request that waits although one of its frames was
refused has an error or a cancellation in the queue. So once the queue has been worked off, all
requests that wait have been taken by the transport, and all the refused ones have ended: their
observers have been told so exactly once, and their bars are gone. A request that is cancelled ends
in this way whether the transport takes the cancellation or not. -/
theorem refused_requests_end (accepts : Nat → Bool) (operations : List Operation) :
    let page := (opened accepts).run operations
    (∀ attempt ∈ page.session.attempts, attempt.accepted = false →
      (page.session.pending? attempt.frame.requestId).isSome →
      page.session.GivenUp attempt.frame.requestId) ∧
    (page.session.queue = [] → page.Cleared) ∧
    page.pump.2.session.queue = [] ∧ page.pump.2.Cleared ∧
    ∀ id, (page.session.pending? id).isSome → (page.cancel id).2.pump.2.Finished id := by
  intro page
  exact ⟨accounted_opened_run.refused, cleared_of_empty, queue_pump balanced_opened_run,
    cleared_pump, fun _ => finished_pump_cancel⟩

/-- The table that is asked for when the files have been found is refused while the queue is worked
off, and so is the cancellation of the request for the files. -/
theorem refused_requests_end_on_the_way :
    let found := (opened (· ≠ 1)).run [.start, .receive ⟨1, .next (.string "files-1")⟩,
      .receive ⟨1, .completed⟩]
    let left := (opened (· = 0)).run [.start, .cancel 1]
    (⟨⟨2, ⟨"files-1"⟩, "loadTable", .null⟩, false⟩ ∈ found.pump.2.session.attempts ∧
      found.pump.2.Cleared) ∧
    (⟨.cancellation 1 rootId, false⟩ ∈ left.session.attempts ∧ left.session.GivenUp 1 ∧
      left.pump.2.Cleared) := by
  intro found left
  have hRefused : ⟨.cancellation 1 rootId, false⟩ ∈ left.session.attempts := by decide
  obtain ⟨-, -, -, hFound, -⟩ := refused_requests_end (· ≠ 1)
    [.start, .receive ⟨1, .next (.string "files-1")⟩, .receive ⟨1, .completed⟩]
  obtain ⟨hGivenUp, -, -, hLeft, -⟩ := refused_requests_end (· = 0) [.start, .cancel 1]
  exact ⟨⟨by decide, hFound⟩, hRefused, hGivenUp _ hRefused rfl (by decide), hLeft⟩

end RemoteTable.Page
