import RemoteTable.Proofs.Session.Pending

/-! Requests that wait for the rows of a view. Each belongs to one generation of one view. -/

namespace RemoteTable

/-- Observers keep their kind, and renderers collect nothing. -/
theorem Observer.collect_eq_renderer_iff {observer : Observer} {payload : Payload}
    {serial generation : Nat} :
    observer.collect payload = .renderer serial generation ↔
      observer = .renderer serial generation := by
  constructor
  · intro h
    unfold collect at h
    split at h
    · cases h
    · cases h
    · cases h
    · exact h
  · rintro rfl
    rfl

namespace Session

/-- The request of this handle waits for rows of this generation of a view. -/
def Awaits (session : Session) (handle : RequestHandle) (serial generation : Nat) : Prop :=
  ∃ receiver, session.pending? handle.requestId = some ⟨handle.objectId, receiver⟩ ∧
    receiver.observer = .renderer serial generation

variable {session other : Session} {handle : RequestHandle} {serial generation : Nat}

theorem awaits_congr (hPending : other.pending? handle.requestId =
    session.pending? handle.requestId) :
    other.Awaits handle serial generation ↔ session.Awaits handle serial generation := by
  unfold Awaits
  rw [hPending]

theorem awaits_of_pending_eq (hPending : other.pending = session.pending) :
    other.Awaits handle serial generation ↔ session.Awaits handle serial generation :=
  awaits_congr (by rw [pending?, pending?, hPending])

theorem Awaits.isSome (h : session.Awaits handle serial generation) :
    (session.pending? handle.requestId).isSome := by
  obtain ⟨receiver, hPending, -⟩ := h
  simp [hPending]

/-- A request brings rows of one generation only. -/
theorem Awaits.observer_eq (h : session.Awaits handle serial generation) {pending : Pending}
    (hPending : session.pending? handle.requestId = some pending) :
    pending.objectId = handle.objectId ∧
      pending.receiver.observer = .renderer serial generation := by
  obtain ⟨receiver, hFound, hObserver⟩ := h
  rw [hFound, Option.some.injEq] at hPending
  subst hPending
  exact ⟨rfl, hObserver⟩

/-- A new request waits for rows exactly if its observer is a renderer. -/
theorem awaits_invoke {call : Call} {observer : Observer}
    (hNew : session.pending? session.nextRequestId = none) :
    (session.invoke call observer).2.Awaits handle serial generation ↔
      session.Awaits handle serial generation ∨
        handle = ⟨session.nextRequestId, call.objectId⟩ ∧
          observer = .renderer serial generation := by
  obtain ⟨id, objectId⟩ := handle
  simp only [Awaits, pending?_invoke call observer hNew, RequestHandle.mk.injEq]
  by_cases hId : id = session.nextRequestId
  · subst hId
    rw [if_pos rfl, hNew]
    constructor
    · rintro ⟨receiver, hSame, hObserver⟩
      cases hSame
      exact Or.inr ⟨⟨rfl, rfl⟩, hObserver⟩
    · rintro (⟨receiver, hOld, -⟩ | ⟨⟨-, rfl⟩, hObserver⟩)
      · cases hOld
      · exact ⟨_, rfl, hObserver⟩
  · simp [hId]

theorem awaits_unregister (hKeys : (session.pending.map Prod.fst).Nodup) {id : Nat} :
    (session.unregister id).Awaits handle serial generation ↔
      session.Awaits handle serial generation ∧ handle.requestId ≠ id := by
  by_cases hId : handle.requestId = id
  · subst hId
    simp [Awaits, pending?_unregister_self hKeys]
  · rw [awaits_congr (pending?_unregister_of_ne hId)]
    simp [hId]

/-- A receiver that has taken a value waits for what it waited for before. -/
theorem awaits_reentered (hKeys : (session.pending.map Prod.fst).Nodup) {id : Nat}
    {pending : Pending} (hPending : session.pending? id = some pending) (payload : Payload) :
    ((session.unregister id).register id ⟨pending.objectId,
      { pending.receiver with observer := pending.receiver.observer.collect payload }⟩).Awaits
        handle serial generation ↔ session.Awaits handle serial generation := by
  by_cases hId : handle.requestId = id
  · subst hId
    obtain ⟨objectId, receiver⟩ := pending
    simp only [Awaits, pending?_register_self (pending?_unregister_self hKeys), hPending,
      Option.some.injEq, Pending.mk.injEq]
    constructor
    · rintro ⟨taken, ⟨hObject, rfl⟩, hObserver⟩
      exact ⟨receiver, ⟨hObject, rfl⟩, Observer.collect_eq_renderer_iff.mp hObserver⟩
    · rintro ⟨taken, ⟨hObject, rfl⟩, hObserver⟩
      exact ⟨_, ⟨hObject, rfl⟩, Observer.collect_eq_renderer_iff.mpr hObserver⟩
  · rw [awaits_congr (pending?_register_of_ne hId), awaits_unregister hKeys]
    simp [hId]

end Session

end RemoteTable
