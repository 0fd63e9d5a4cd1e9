import RemoteTable.Proofs.Page.Asking
import RemoteTable.Proofs.Page.Demultiplexing
import RemoteTable.Proofs.Session.Sending

/-! Where the requests that wait come from. A receiver that takes a value is entered again for what it was
entered for; apart from that, a request waits only from the operation on that has issued it. -/

namespace RemoteTable

namespace Observer

/-- The observer before it has collected anything. -/
def blank : Observer → Observer
  | fileSet _ => fileSet none
  | tableLoader _ => tableLoader none
  | rangeCollector serial column _ => rangeCollector serial column none
  | observer => observer

@[simp] theorem blank_collect (observer : Observer) (payload : Payload) :
    (observer.collect payload).blank = observer.blank := by
  unfold collect
  split <;> rfl

/-- Renderers collect nothing. -/
theorem blank_eq_renderer_iff {observer : Observer} {serial generation : Nat} :
    observer.blank = renderer serial generation ↔ observer = renderer serial generation := by
  cases observer <;> simp [blank]

theorem blank_eq_rangeCollector_iff {observer : Observer} {serial : Nat} {column : Column} :
    observer.blank = rangeCollector serial column none ↔
      ∃ found, observer = rangeCollector serial column found := by
  cases observer <;> simp [blank]

end Observer

namespace Session

/-- A request of this number to an object waits, and its observer started as this one. -/
def Waits (session : Session) (id : Nat) (objectId : ObjectId) (observer : Observer) : Prop :=
  ∃ entry ∈ session.pending, entry.1 = id ∧ entry.2.objectId = objectId ∧
    entry.2.receiver.observer.blank = observer

variable {session other : Session} {id : Nat} {objectId : ObjectId} {observer : Observer}

theorem Waits.of_pending? {pending : Pending} (hPending : session.pending? id = some pending) :
    session.Waits id pending.objectId pending.receiver.observer.blank :=
  ⟨_, mem_of_pending? hPending, rfl, rfl, rfl⟩

/-- Whoever waits among fewer requests waits among more. -/
theorem Waits.of_subset (hPending : other.pending ⊆ session.pending)
    (h : other.Waits id objectId observer) : session.Waits id objectId observer := by
  obtain ⟨entry, hEntry, hOwn⟩ := h
  exact ⟨entry, hPending hEntry, hOwn⟩

/-- The request has been issued last, and it is of a certain kind. -/
def Issued (session other : Session) (kind : Call → Observer → Prop) (id : Nat) (objectId : ObjectId)
    (observer : Observer) : Prop :=
  ∃ call asked, kind call asked ∧ asked.blank = observer ∧ call.objectId = objectId ∧
    session.nextRequestId = id ∧
    (⟨id, objectId, call.method, call.arguments⟩ : Request) ∈ other.frames

/-- A request that waits has waited before, or it is the one that is asked for. -/
theorem Asks.waits {kind : Call → Observer → Prop} (h : session.Asks kind other)
    (hWaits : other.Waits id objectId observer) :
    session.Waits id objectId observer ∨ session.Issued other kind id objectId observer := by
  cases h with
  | quiet h => exact Or.inl (hWaits.of_subset (h.pending_eq ▸ List.Subset.refl _))
  | @issue middle h call asked hKind =>
      obtain ⟨entry, hEntry, rfl, rfl, rfl⟩ := hWaits
      rw [pending_invoke] at hEntry
      rcases List.mem_append.mp hEntry with hOld | hNew
      · exact Or.inl ⟨entry, h.pending_eq ▸ hOld, rfl, rfl, rfl⟩
      · obtain rfl := List.mem_singleton.mp hNew
        refine Or.inr ⟨call, asked, hKind, rfl, rfl, h.nextRequestId_eq.symm, ?_⟩
        rw [frames_invoke]
        exact List.mem_append_right _ (List.mem_singleton_self _)

end Session

namespace Page

variable {page next : Page} {id : Nat} {objectId : ObjectId} {observer : Observer}

/-- The request that an operation issues, or that an observer issues at the end of its own one. -/
def MayIssue (page : Page) (operation : Operation) (call : Call) (observer : Observer) : Prop :=
  page.MayAsk operation call observer ∨
    operation = .handleNext ∧ ∃ loading : Operation, loading.Loads ∧ page.MayAsk loading call observer

/-- What may be asked for depends on the view, the home table and the next number. -/
theorem MayAsk.congr {operation : Operation} {call : Call} (h : page.MayAsk operation call observer)
    (hView : next.view = page.view) (hHome : next.homeId = page.homeId)
    (hSerial : next.nextSerial = page.nextSerial) : next.MayAsk operation call observer := by
  cases h with
  | files => exact .files
  | table => exact .table _
  | schema => exact hSerial ▸ .schema _
  | home hKnown => exact hSerial ▸ .home (hHome.trans hKnown)
  | rows hRows hBefore hForms => exact .rows hRows (hView.trans hBefore) hForms
  | range hBefore hColumn => exact .range (hView.trans hBefore) hColumn

/-- Whoever waits after the handling of a reply has waited before, or the reply has ended a request
whose observer has then issued this one. -/
theorem waits_turn (h : page.session.Balanced) (hTurn : Turn page next)
    (hWaits : next.session.Waits id objectId observer) :
    page.session.Waits id objectId observer ∨
      page.session.Issued next.session (page.MayIssue .handleNext) id objectId observer := by
  cases hTurn with
  | idle | unknown => exact Or.inl hWaits
  | @accepted key result pending done payload hQueue hPending hDecodes =>
      obtain ⟨entry, hEntry, rfl, rfl, rfl⟩ := hWaits
      rw [session_resume] at hEntry
      left
      rcases Session.mem_register.mp hEntry with hOld | rfl
      · rw [Receiver.pending_progressed] at hOld
        exact ⟨entry, List.mem_of_mem_eraseP hOld, rfl, rfl, rfl⟩
      · exact ⟨(key, pending), Session.mem_of_pending? hPending, rfl, rfl,
          (Observer.blank_collect _ payload).symm⟩
  | @ended frame pending error hQueue hPending hEnds =>
      rw [finish_eq_onCompleted h hPending] at hWaits ⊢
      rcases (asks_onCompleted pending.receiver.observer _).waits hWaits with
        hOld | ⟨call, asked, ⟨loading, hMay, hLoads⟩, hIssued⟩
      · exact Or.inl (hOld.of_subset fun _ hEntry => List.mem_of_mem_eraseP hEntry)
      · exact Or.inr ⟨call, asked, Or.inr ⟨rfl, loading, hLoads, hMay.congr rfl rfl rfl⟩, hIssued⟩

/-- Whoever waits after an operation has waited before, or the operation has issued this request. -/
theorem waits_step (h : page.session.Balanced) {operation : Operation}
    (hOrdinary : operation.IsOrdinary)
    (hWaits : (page.step operation).session.Waits id objectId observer) :
    page.session.Waits id objectId observer ∨
      page.session.Issued (page.step operation).session (page.MayIssue operation) id objectId
        observer := by
  rcases operation.handles_or with rfl | ⟨frame, rfl⟩ | ⟨hOther, hHandling⟩
  · exact waits_turn h (turn_of_balanced h) hWaits
  · exact Or.inl hWaits
  · have hAsks : page.session.Asks (page.MayAsk operation) (page.step operation).session :=
      asks_step hOrdinary hOther hHandling
    refine (hAsks.waits hWaits).imp_right ?_
    rintro ⟨call, asked, hMay, hIssued⟩
    exact ⟨call, asked, Or.inl hMay, hIssued⟩

/-- A request that was issued before a run and waits after it has waited all the time. -/
theorem waits_run (h : page.session.Balanced) {operations : List Operation}
    (hOrdinary : ∀ operation ∈ operations, operation.IsOrdinary)
    (hBelow : id < page.session.nextRequestId)
    (hWaits : (page.run operations).session.Waits id objectId observer) :
    page.session.Waits id objectId observer := by
  induction operations generalizing page with
  | nil => exact hWaits
  | cons operation rest ih =>
      obtain ⟨hFirst, hRest⟩ := List.forall_mem_cons.mp hOrdinary
      have hNext : (page.step operation).session.Waits id objectId observer :=
        ih (balanced_step h operation) hRest
          (Nat.lt_of_lt_of_le hBelow (nextRequestId_le_step h operation)) hWaits
      rcases waits_step h hFirst hNext with hBefore | ⟨_, _, _, _, _, hNew, _⟩
      · exact hBefore
      · exact absurd hNew (Nat.ne_of_gt hBelow)

end Page

end RemoteTable
