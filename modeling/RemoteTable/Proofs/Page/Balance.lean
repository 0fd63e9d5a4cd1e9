import RemoteTable.Proofs.Page.Handling
import RemoteTable.Proofs.Session.Bars
import RemoteTable.Proofs.Session.Pending

/-! Requests that wait for replies and progress bars correspond one to one. A receiver that handles a
reply is taken out of the table for that time, and its bar goes before its observer may act, so the
correspondence holds again whenever an observer uses the session. -/

namespace RemoteTable

namespace Session

/-- Each request that waits for replies has a progress bar of its own, and each bar belongs to such
a request. -/
structure Balanced (session : Session) : Prop where
  barIds : (session.progress.bars.map ProgressBar.id).Nodup
  barRequests : (session.progress.bars.map ProgressBar.requestId).Nodup
  keys : (session.pending.map Prod.fst).Nodup
  shown : ∀ id, id ∈ session.progress.bars.map ProgressBar.requestId ↔
    id ∈ session.pending.map Prod.fst
  active : ∀ entry ∈ session.pending,
    entry.2.receiver.finished = false ∧ entry.2.receiver.requestId = entry.1
  bar : ∀ entry ∈ session.pending, ∃ bar ∈ session.progress.bars,
    bar.id = entry.2.receiver.bar ∧ bar.requestId = entry.1
  below : ∀ entry ∈ session.pending, entry.1 < session.nextRequestId
  barsBelow : ∀ bar ∈ session.progress.bars, bar.id < session.progress.nextId

namespace Balanced

variable {session : Session}

/-- Only the table, the bars and the next number matter. -/
theorem of_eq {other : Session} (h : session.Balanced) (hPending : other.pending = session.pending)
    (hProgress : other.progress = session.progress)
    (hNext : other.nextRequestId = session.nextRequestId) : other.Balanced := by
  constructor <;> simp only [hPending, hProgress, hNext]
  exacts [h.barIds, h.barRequests, h.keys, h.shown, h.active, h.bar, h.below, h.barsBelow]

/-- Requests wait under numbers that have been given. -/
theorem key_lt (h : session.Balanced) {id : Nat} (hId : id ∈ session.pending.map Prod.fst) :
    id < session.nextRequestId := by
  obtain ⟨entry, hEntry, rfl⟩ := List.mem_map.mp hId
  exact h.below entry hEntry

/-- The receiver of a request that waits has not finished, and it knows its request. -/
theorem waiting (h : session.Balanced) {id : Nat} {pending : Pending}
    (hPending : session.pending? id = some pending) :
    pending.receiver.finished = false ∧ pending.receiver.requestId = id :=
  h.active _ (mem_of_pending? hPending)

theorem issued (h : session.Balanced) {id : Nat} (hWaits : (session.pending? id).isSome) :
    id < session.nextRequestId := by
  obtain ⟨pending, hPending⟩ := Option.isSome_iff_exists.mp hWaits
  exact h.below _ (mem_of_pending? hPending)

/-- No bars are left exactly if no requests are. -/
theorem bars_eq_nil_iff (h : session.Balanced) :
    session.progress.bars = [] ↔ session.pending = [] := by
  have hPerm := (List.perm_ext_iff_of_nodup h.barRequests h.keys).mpr h.shown
  have hLength := hPerm.length_eq
  rw [List.length_map, List.length_map] at hLength
  rw [← List.length_eq_zero_iff, ← List.length_eq_zero_iff, hLength]

/-- The next number is free. -/
theorem pending?_next (h : session.Balanced) : session.pending? session.nextRequestId = none :=
  pending?_eq_none_iff.mpr fun hId => Nat.lt_irrefl _ (h.key_lt hId)

theorem fresh (accepts : Nat → Bool) : (Session.fresh.setAccepts accepts).Balanced := by
  constructor <;> simp [Session.fresh, setAccepts, Progress.empty]

/-- A new request gets a number and a bar that were never used. -/
theorem invoke (h : session.Balanced) (call : Call) (observer : Observer) :
    (session.invoke call observer).2.Balanced := by
  have hKey := pending?_eq_none_iff.mp h.pending?_next
  have hBar : session.progress.nextId ∉ session.progress.bars.map ProgressBar.id := fun hId => by
    obtain ⟨bar, hMem, hSame⟩ := List.mem_map.mp hId
    exact Nat.lt_irrefl _ (hSame ▸ h.barsBelow bar hMem)
  have hRequest : session.nextRequestId ∉ session.progress.bars.map ProgressBar.requestId :=
    fun hId => hKey ((h.shown _).mp hId)
  constructor <;> simp only [pending_invoke, progress_invoke, nextRequestId_invoke, Progress.add,
    List.map_append, List.map_cons, List.map_nil]
  · exact h.barIds.append (List.nodup_singleton _) (List.disjoint_singleton.mpr hBar)
  · exact h.barRequests.append (List.nodup_singleton _) (List.disjoint_singleton.mpr hRequest)
  · exact h.keys.append (List.nodup_singleton _) (List.disjoint_singleton.mpr hKey)
  · intro id
    rw [List.mem_append, List.mem_append, h.shown id]
  · intro entry hEntry
    rcases List.mem_append.mp hEntry with hOld | hNew
    · exact h.active entry hOld
    · obtain rfl := List.mem_singleton.mp hNew
      exact ⟨rfl, rfl⟩
  · intro entry hEntry
    rcases List.mem_append.mp hEntry with hOld | hNew
    · obtain ⟨bar, hMem, hSame⟩ := h.bar entry hOld
      exact ⟨bar, List.mem_append_left _ hMem, hSame⟩
    · obtain rfl := List.mem_singleton.mp hNew
      exact ⟨_, List.mem_append_right _ (List.mem_singleton_self _), rfl, rfl⟩
  · intro entry hEntry
    rcases List.mem_append.mp hEntry with hOld | hNew
    · exact Nat.lt_succ_of_lt (h.below entry hOld)
    · obtain rfl := List.mem_singleton.mp hNew
      exact Nat.lt_succ_self _
  · intro bar hMem
    rcases List.mem_append.mp hMem with hOld | hNew
    · exact Nat.lt_succ_of_lt (h.barsBelow bar hOld)
    · obtain rfl := List.mem_singleton.mp hNew
      exact Nat.lt_succ_self _

/-- Cancellations are put into the queue, which has no part in the balance. -/
theorem quiet {other : Session} (h : session.Balanced) (hQuiet : session.Quiet other) :
    other.Balanced :=
  h.of_eq hQuiet.pending_eq hQuiet.progress_eq hQuiet.nextRequestId_eq

/-- A request comes with a bar of its own, a refused one too. -/
theorem uses {other : Session} (h : session.Balanced) (hUses : session.Uses other) :
    other.Balanced := by
  cases hUses with
  | quiet hQuiet => exact h.quiet hQuiet
  | issue hQuiet call observer => exact (h.quiet hQuiet).invoke call observer

/-- The entry of a request and its bar go together. -/
theorem released (h : session.Balanced) {id : Nat} {pending : Pending}
    (hPending : session.pending? id = some pending) :
    (pending.receiver.released (session.unregister id)).Balanced := by
  have hEntry := mem_of_pending? hPending
  obtain ⟨bar, hBar, hBarId, hBarRequest⟩ := h.bar _ hEntry
  have hMem : ∀ entry, entry ∈ (session.unregister id).pending ↔
      entry ∈ session.pending ∧ entry.1 ≠ id := fun _ => mem_unregister h.keys
  have hBars : ∀ other, other ∈ (session.progress.release pending.receiver.bar).2.bars ↔
      other ∈ session.progress.bars ∧ other.id ≠ pending.receiver.bar := fun _ =>
    mem_eraseP_key h.barIds
  -- A bar is left over exactly if it belongs to another request.
  have hOther : ∀ other ∈ session.progress.bars,
      other.id ≠ pending.receiver.bar ↔ other.requestId ≠ id := by
    intro other hShown
    refine not_congr ⟨fun hSame => ?_, fun hSame => ?_⟩
    · exact eq_of_key_eq h.barIds hShown hBar (hSame.trans hBarId.symm) ▸ hBarRequest
    · exact eq_of_key_eq h.barRequests hShown hBar (hSame.trans hBarRequest.symm) ▸ hBarId
  constructor
  · exact nodup_eraseP h.barIds _
  · exact nodup_eraseP h.barRequests _
  · exact nodup_eraseP h.keys _
  · intro other
    have hLeft : other ∈ (session.progress.release pending.receiver.bar).2.bars.map
        ProgressBar.requestId ↔
        other ∈ session.progress.bars.map ProgressBar.requestId ∧ other ≠ id := by
      simp only [List.mem_map, hBars]
      constructor
      · rintro ⟨shown, ⟨hShown, hKept⟩, rfl⟩
        exact ⟨⟨shown, hShown, rfl⟩, (hOther shown hShown).mp hKept⟩
      · rintro ⟨⟨shown, hShown, rfl⟩, hKept⟩
        exact ⟨shown, ⟨hShown, (hOther shown hShown).mpr hKept⟩, rfl⟩
    have hRight : other ∈ (session.unregister id).pending.map Prod.fst ↔
        other ∈ session.pending.map Prod.fst ∧ other ≠ id := by
      simp only [List.mem_map, hMem]
      constructor
      · rintro ⟨entry, ⟨hOld, hKept⟩, rfl⟩
        exact ⟨⟨entry, hOld, rfl⟩, hKept⟩
      · rintro ⟨⟨entry, hOld, rfl⟩, hKept⟩
        exact ⟨entry, ⟨hOld, hKept⟩, rfl⟩
    exact hLeft.trans ((and_congr_left' (h.shown other)).trans hRight.symm)
  · exact fun entry hLeft => h.active entry ((hMem entry).mp hLeft).1
  · intro entry hLeft
    obtain ⟨hOld, hKept⟩ := (hMem entry).mp hLeft
    obtain ⟨shown, hShown, hSame, hRequest⟩ := h.bar entry hOld
    exact ⟨shown, (hBars shown).mpr ⟨hShown, (hOther shown hShown).mpr (hRequest ▸ hKept)⟩,
      hSame, hRequest⟩
  · exact fun entry hLeft => h.below entry ((hMem entry).mp hLeft).1
  · exact fun shown hLeft => h.barsBelow shown ((hBars shown).mp hLeft).1

/-- Showing progress changes what a bar says, not which bars there are. -/
theorem progressed (h : session.Balanced) (receiver : Receiver) (done : Option Double) :
    (receiver.progressed done session).Balanced := by
  cases done with
  | none => exact h
  | some done =>
      have hIds : (session.progress.set receiver.bar done).bars.map ProgressBar.id =
          session.progress.bars.map ProgressBar.id := Progress.map_bars_set (fun _ _ => rfl) _ _ _
      have hRequests : (session.progress.set receiver.bar done).bars.map ProgressBar.requestId =
          session.progress.bars.map ProgressBar.requestId :=
        Progress.map_bars_set (fun _ _ => rfl) _ _ _
      refine ⟨hIds.symm ▸ h.barIds, hRequests.symm ▸ h.barRequests, h.keys,
        fun id => hRequests.symm ▸ h.shown id, h.active, ?_, h.below, ?_⟩
      · intro entry hEntry
        obtain ⟨bar, hBar, hSame, hRequest⟩ := h.bar entry hEntry
        obtain ⟨shown, hShown, hId, hOwner⟩ := Progress.exists_bar_set hBar receiver.bar done
        exact ⟨shown, hShown, hId.trans hSame, hOwner.trans hRequest⟩
      · intro bar hBar
        have hId : bar.id ∈ session.progress.bars.map ProgressBar.id :=
          hIds ▸ List.mem_map_of_mem hBar
        obtain ⟨shown, hShown, hSame⟩ := List.mem_map.mp hId
        exact hSame ▸ h.barsBelow shown hShown

/-- A receiver that has taken a value is entered again. -/
theorem reentered (h : session.Balanced) {id : Nat} {pending : Pending}
    (hPending : session.pending? id = some pending) (observer : Observer) :
    ((session.unregister id).register id
      ⟨pending.objectId, { pending.receiver with observer := observer }⟩).Balanced := by
  have hEntry := mem_of_pending? hPending
  have hMem : ∀ entry, entry ∈ ((session.unregister id).register id
      ⟨pending.objectId, { pending.receiver with observer := observer }⟩).pending ↔
      (entry ∈ session.pending ∧ entry.1 ≠ id) ∨
        entry = (id, ⟨pending.objectId, { pending.receiver with observer := observer }⟩) := by
    intro entry
    rw [mem_register, mem_unregister h.keys]
  refine ⟨h.barIds, h.barRequests, ?_, ?_, ?_, ?_, ?_, h.barsBelow⟩
  · rw [register, List.map_append]
    refine (nodup_eraseP h.keys id).append (List.nodup_singleton _)
      (List.disjoint_singleton.mpr fun hId => ?_)
    obtain ⟨entry, hLeft, hSame⟩ := List.mem_map.mp hId
    exact ((mem_unregister h.keys).mp hLeft).2 hSame
  · intro other
    refine (h.shown other).trans ⟨fun hOther => ?_, fun hOther => ?_⟩
    · obtain ⟨entry, hOld, rfl⟩ := List.mem_map.mp hOther
      by_cases hSame : entry.1 = id
      · exact List.mem_map.mpr ⟨_, (hMem _).mpr (Or.inr rfl), hSame.symm⟩
      · exact List.mem_map_of_mem ((hMem entry).mpr (Or.inl ⟨hOld, hSame⟩))
    · obtain ⟨entry, hOwn, rfl⟩ := List.mem_map.mp hOther
      rcases (hMem entry).mp hOwn with ⟨hOld, -⟩ | rfl
      · exact List.mem_map_of_mem hOld
      · exact List.mem_map.mpr ⟨_, hEntry, rfl⟩
  · intro entry hOwn
    rcases (hMem entry).mp hOwn with ⟨hOld, -⟩ | rfl
    · exact h.active entry hOld
    · exact h.active (id, pending) hEntry
  · intro entry hOwn
    rcases (hMem entry).mp hOwn with ⟨hOld, -⟩ | rfl
    · exact h.bar entry hOld
    · exact h.bar (id, pending) hEntry
  · intro entry hOwn
    rcases (hMem entry).mp hOwn with ⟨hOld, -⟩ | rfl
    · exact h.below entry hOld
    · exact h.below (id, pending) hEntry

end Balanced

/-- Giving up requests that all wait for replies counts each of them and tells each of them once. -/
theorem cancelEach_of_pending (session : Session) {ids : List Nat}
    (hIds : ∀ id ∈ ids, id ∈ session.pending.map Prod.fst) :
    (session.cancelEach ids).1 = ids.length ∧
      (session.cancelEach ids).2.queue =
        session.queue ++ ids.map fun id => ⟨id, .cancelled⟩ := by
  induction ids generalizing session with
  | nil => simp [cancelEach]
  | cons id rest ih =>
      obtain ⟨hFirst, hRest⟩ := List.forall_mem_cons.mp hIds
      have hWaits : (session.pending? id).isSome := by
        rw [Option.isSome_iff_ne_none]
        exact fun hNone => pending?_eq_none_iff.mp hNone hFirst
      obtain ⟨hCount, hQueue⟩ := ih (session.cancel id).2 (by simpa using hRest)
      simp only [cancelEach, fst_cancel, hWaits, if_true, hCount, hQueue, queue_cancel,
        List.length_cons, List.map_cons, List.append_assoc, List.singleton_append, and_self]

end Session

namespace Page

/-- No receiver waits that has finished. -/
theorem turn_of_balanced {page : Page} (h : page.session.Balanced) :
    Turn page (page.step .handleNext) :=
  turn_handleNext fun _ _ hPending => (h.waiting hPending).1

section Resume

variable {page : Page} {id : Nat} {objectId : ObjectId} (receiver : Receiver)
  (done : Option Double) (payload : Payload)

/-- A receiver that has taken a value has its request back. -/
theorem pending?_resume_self (hKeys : (page.session.pending.map Prod.fst).Nodup) :
    (resume objectId id (receiver.accept done payload (page.popped.withdrawn id))).session.pending?
        id =
      some ⟨objectId, { receiver with observer := receiver.observer.collect payload }⟩ := by
  have hLeft : (page.popped.withdrawn id).session.pending? id = none :=
    Session.pending?_unregister_self hKeys
  rw [session_resume]
  apply Session.pending?_register_self
  rw [Session.pending?, Receiver.pending_progressed]
  exact hLeft

theorem pending?_resume_of_ne {other : Nat} (hOther : other ≠ id) :
    (resume objectId id (receiver.accept done payload (page.popped.withdrawn id))).session.pending?
        other = page.session.pending? other := by
  have hRest : (page.popped.withdrawn id).session.pending? other = page.session.pending? other :=
    Session.pending?_unregister_of_ne hOther
  rw [session_resume, Session.pending?_register_of_ne hOther, Session.pending?,
    Receiver.pending_progressed]
  exact hRest

end Resume

/-- A request that has ended waits no longer, and the others wait as before. -/
theorem pending?_concluded {page : Page} (h : page.session.Balanced) (id : Nat)
    (receiver : Receiver) (error : Option String) (key : Nat) :
    (page.concluded id receiver error).session.pending? key =
      if key = id then none else page.session.pending? key := by
  split_ifs with hOwn
  · subst hOwn
    exact Session.pending?_unregister_self h.keys
  · exact Session.pending?_unregister_of_ne hOwn

section Ended

variable {page : Page} (h : page.session.Balanced) {id : Nat} {pending : Pending}
  (hPending : page.session.pending? id = some pending) (error : Option String)

include h hPending

/-- A request that ends leaves together with its bar. -/
theorem balanced_concluded : (page.concluded id pending.receiver error).session.Balanced := by
  have hPopped : page.popped.session.Balanced := h.of_eq rfl rfl rfl
  have hKnown : page.popped.session.pending? id = some pending := hPending
  exact (hPopped.released hKnown).of_eq rfl rfl rfl

/-- When a request has ended, its observer acts on the page without it. -/
theorem finish_eq_onCompleted :
    (pending.receiver.finish ((page.popped.withdrawn id).withError error)).2 =
      pending.receiver.observer.onCompleted (page.concluded id pending.receiver error) :=
  Receiver.snd_finish _ (h.waiting hPending).1

/-- What the observer does at the end starts from the balanced session without the request. -/
theorem uses_finish_concluded :
    (page.concluded id pending.receiver error).session.Uses
      (pending.receiver.finish ((page.popped.withdrawn id).withError error)).2.session :=
  Receiver.uses_finish _ (h.waiting hPending).1

/-- A request that has ended does not wait, whatever its observer has done. -/
theorem pending?_finish_self :
    (pending.receiver.finish ((page.popped.withdrawn id).withError error)).2.session.pending? id =
      none := by
  have hLeft : (page.concluded id pending.receiver error).session.pending? id = none := by
    rw [pending?_concluded h, if_pos rfl]
  have hIssued : id < (page.concluded id pending.receiver error).session.nextRequestId :=
    h.below _ (Session.mem_of_pending? hPending)
  exact ((uses_finish_concluded h hPending error).pending?_eq hIssued).trans hLeft

end Ended

/-- The handling of one reply keeps requests and bars in balance. -/
theorem balanced_turn {page next : Page} (h : page.session.Balanced) (hTurn : Turn page next) :
    next.session.Balanced := by
  have hPopped : page.popped.session.Balanced := h.of_eq rfl rfl rfl
  cases hTurn with
  | idle => exact h
  | unknown => exact hPopped
  | @accepted id result pending done payload hQueue hPending hDecodes =>
      have hKnown : page.popped.session.pending? id = some pending := hPending
      have hEntered := hPopped.reentered hKnown (pending.receiver.observer.collect payload)
      rw [session_resume]
      cases done with
      | none => exact hEntered
      | some done => exact hEntered.progressed pending.receiver (some done)
  | @ended frame pending error hQueue hPending hEnds =>
      exact (balanced_concluded h hPending error).uses (uses_finish_concluded h hPending error)

/-- Whatever happens to a page, requests and bars stay in balance. -/
theorem balanced_step {page : Page} (h : page.session.Balanced) (operation : Operation) :
    (page.step operation).session.Balanced := by
  rcases page.step_cases operation with rfl | ⟨frame, rfl⟩ | ⟨-, hUses⟩
  · exact balanced_turn h (turn_of_balanced h)
  · exact h.of_eq rfl rfl rfl
  · exact h.uses hUses.session

/-- Requests and bars are in balance all the time, whatever replies come in and whichever frames are
refused. -/
theorem balanced_run {page : Page} (h : page.session.Balanced) (operations : List Operation) :
    (page.run operations).session.Balanced := by
  induction operations generalizing page with
  | nil => exact h
  | cons operation operations ih => exact ih (balanced_step h operation)

/-- What every operation of a run keeps is kept by the run. -/
theorem run_keeps {motive : Page → Prop} {operations : List Operation}
    (hKeeps : ∀ operation ∈ operations, ∀ {page : Page}, page.session.Balanced → motive page →
      motive (page.step operation))
    {page : Page} (h : page.session.Balanced) (hStart : motive page) :
    motive (page.run operations) := by
  induction operations generalizing page with
  | nil => exact hStart
  | cons operation rest ih =>
      obtain ⟨hFirst, hRest⟩ := List.forall_mem_cons.mp hKeeps
      exact ih hRest (balanced_step h operation) (hFirst h hStart)

/-- In every run of a page, over any transport and with any replies, the requests that wait and the
bars that are shown correspond one to one. Hence giving up everything counts exactly the waiting
requests and puts one cancellation for each of them into the queue. -/
theorem requests_balance_bars (accepts : Nat → Bool) (operations : List Operation) :
    let page := (opened accepts).run operations
    page.session.Balanced ∧ page.cancelAll.1 = page.session.pending.length ∧
      ∃ ids : List Nat, ids.Perm (page.session.pending.map Prod.fst) ∧
        page.cancelAll.2.session.queue =
          page.session.queue ++ ids.map fun id => ⟨id, .cancelled⟩ := by
  intro page
  have hBalanced : page.session.Balanced := balanced_run (.fresh accepts) operations
  have hPerm : (page.session.progress.bars.map ProgressBar.requestId).Perm
      (page.session.pending.map Prod.fst) :=
    (List.perm_ext_iff_of_nodup hBalanced.barRequests hBalanced.keys).mpr hBalanced.shown
  obtain ⟨hCount, hQueue⟩ := page.session.cancelEach_of_pending fun id hId =>
    (hBalanced.shown id).mp hId
  refine ⟨hBalanced, hCount.trans ?_, _, hPerm, hQueue⟩
  rw [hPerm.length_eq, List.length_map]

end Page

end RemoteTable
