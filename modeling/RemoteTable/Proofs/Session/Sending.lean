import RemoteTable.Proofs.Session.Pending

/-! Which requests a session has sent, and which renderers wait for their replies. -/

namespace RemoteTable.Session

/-- The request of this number was handed to the transport with this call, and it was taken if the
transport takes frames at that place. -/
def Sent (session : Session) (id : Nat) (call : Call) : Prop :=
  ∃ place : Nat, session.attempts[place]? =
    some ⟨⟨id, call.objectId, call.method, call.arguments⟩, session.accepts place⟩

theorem Sent.mono {session other : Session} {id : Nat} {call : Call} (h : session.Sent id call)
    (hAccepts : other.accepts = session.accepts) (hPrefix : session.attempts <+: other.attempts) :
    other.Sent id call := by
  obtain ⟨place, hPlace⟩ := h
  obtain ⟨later, hLater⟩ := hPrefix
  have hBound : place < session.attempts.length := (List.getElem?_eq_some_iff.mp hPlace).1
  refine ⟨place, ?_⟩
  rw [← hLater, List.getElem?_append_left hBound, hPlace, hAccepts]

section Invoke

variable (session : Session) (call : Call) (observer : Observer)

theorem sent_invoke : (session.invoke call observer).2.Sent session.nextRequestId call := by
  refine ⟨session.attempts.length, ?_⟩
  rw [snd_invoke]
  exact List.getElem?_concat_length

variable {session call observer}

theorem Sent.invoke {id : Nat} {other : Call} (h : session.Sent id other) :
    (session.invoke call observer).2.Sent id other := by
  refine h.mono ?_ ?_ <;> rw [snd_invoke]
  exact List.prefix_append _ _

/-- A request that waits waited before, or it is the new one. -/
theorem mem_pending_invoke {entry : Nat × Pending}
    (hEntry : entry ∈ (session.invoke call observer).2.pending) :
    entry ∈ session.pending ∨
      entry.1 = session.nextRequestId ∧ entry.2.receiver.observer = observer := by
  rw [pending_invoke] at hEntry
  rcases List.mem_append.mp hEntry with hOld | hNew
  · exact Or.inl hOld
  · obtain rfl := List.mem_singleton.mp hNew
    exact Or.inr ⟨rfl, rfl⟩

end Invoke

/-- What was sent stays sent, and renderers that wait have waited before. -/
structure Inherits (session other : Session) : Prop where
  sent : ∀ id call, session.Sent id call → other.Sent id call
  renderers : ∀ entry ∈ other.pending, ∀ serial generation,
    entry.2.receiver.observer = .renderer serial generation →
    ∃ old ∈ session.pending, old.1 = entry.1 ∧
      old.2.receiver.observer = .renderer serial generation

namespace Inherits

variable {session other : Session}

theorem of_eq (hAccepts : other.accepts = session.accepts)
    (hPrefix : session.attempts <+: other.attempts) (hPending : other.pending ⊆ session.pending) :
    session.Inherits other where
  sent _ _ hSent := hSent.mono hAccepts hPrefix
  renderers entry hEntry _ _ hObserver := ⟨entry, hPending hEntry, rfl, hObserver⟩

theorem trans {third : Session} (left : session.Inherits other) (right : other.Inherits third) :
    session.Inherits third where
  sent id call hSent := right.sent id call (left.sent id call hSent)
  renderers entry hEntry serial generation hObserver := by
    obtain ⟨middle, hMiddle, hSame, hStill⟩ := right.renderers entry hEntry _ _ hObserver
    obtain ⟨old, hOld, hBefore, hFirst⟩ := left.renderers middle hMiddle _ _ hStill
    exact ⟨old, hOld, hBefore.trans hSame, hFirst⟩

theorem of_quiet (h : session.Quiet other) : session.Inherits other :=
  of_eq h.accepts_eq h.attempts_prefix (h.pending_eq ▸ List.Subset.refl _)

/-- A request of another observer adds no renderer. -/
theorem invoke (session : Session) (call : Call) {observer : Observer}
    (hObserver : ∀ serial generation, observer ≠ .renderer serial generation) :
    session.Inherits (session.invoke call observer).2 where
  sent _ _ hSent := hSent.invoke
  renderers entry hEntry serial generation hSame := by
    rcases mem_pending_invoke hEntry with hOld | ⟨-, hNew⟩
    · exact ⟨entry, hOld, rfl, hSame⟩
    · exact absurd (hNew.symm.trans hSame) (hObserver serial generation)

theorem unregister (session : Session) (id : Nat) : session.Inherits (session.unregister id) :=
  of_eq rfl List.prefix_rfl fun _ hLeft => List.mem_of_mem_eraseP hLeft

/-- A receiver whose observer is a renderer only if it was one before is entered again. -/
theorem register {id : Nat} {pending : Pending} (hPending : session.pending? id = some pending)
    {next : Pending} (hNext : ∀ serial generation,
      next.receiver.observer = .renderer serial generation →
      pending.receiver.observer = .renderer serial generation) :
    session.Inherits ((session.unregister id).register id next) where
  sent _ _ hSent := hSent
  renderers entry hEntry serial generation hSame := by
    rcases mem_register.mp hEntry with hLeft | rfl
    · exact (unregister session id).renderers entry hLeft serial generation hSame
    · exact ⟨(id, pending), mem_of_pending? hPending, rfl, hNext serial generation hSame⟩

end Inherits

end RemoteTable.Session
