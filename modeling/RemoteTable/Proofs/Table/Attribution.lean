import RemoteTable.Proofs.Session.Sending
import RemoteTable.Proofs.Table.Conduct
import RemoteTable.Proofs.Table.Showing

/-! Where the snapshot of a view comes from. Only the renderer of the newest request can have its
snapshot shown, and the current order is the one that this request was sent with. -/

namespace RemoteTable

/-- The request of this number asked for the rows of a table in this order. With the schema come
rows in the empty order. -/
def Session.Asked (session : Session) (id : Nat) (tableId : ObjectId) (order : SortOrder) : Prop :=
  session.Sent id (.of tableId "getTableView" order) ∨
    order = .empty ∧ session.Sent id (.bare tableId "getSchema")

theorem Session.Asked.inherit {session other : Session} {id : Nat} {tableId : ObjectId}
    {order : SortOrder} (h : session.Asked id tableId order) (hInherits : session.Inherits other) :
    other.Asked id tableId order :=
  h.imp (hInherits.sent _ _) (And.imp_right (hInherits.sent _ _))

/-- Every renderer that waits belongs to a view with a number below the bound. -/
def Session.Older (session : Session) (bound : Nat) : Prop :=
  ∀ entry ∈ session.pending, ∀ serial generation,
    entry.2.receiver.observer = .renderer serial generation → serial < bound

theorem Session.Older.inherit {session other : Session} {bound : Nat} (h : session.Older bound)
    (hInherits : session.Inherits other) : other.Older bound := by
  intro entry hEntry serial generation hObserver
  obtain ⟨old, hOld, -, hSame⟩ := hInherits.renderers entry hEntry serial generation hObserver
  exact h old hOld serial generation hSame

namespace View

/-- What is known of a view and of the requests that wait. `told` says which snapshot came as a reply
to which request of which view, and view numbers are below the bound. -/
structure Attributed (told : Nat → Nat → Snapshot → Prop) (bound : Nat) (session : Session)
    (view : View) : Prop where
  serial : view.serial < bound
  older : session.Older bound
  renderers : ∀ entry ∈ session.pending, ∀ generation,
    entry.2.receiver.observer = .renderer view.serial generation →
    generation ≤ view.generation ∧
      (generation = view.generation → session.Asked entry.1 view.tableId view.order)
  shown : ∀ data, view.snapshot = some data →
    ∃ id, session.Asked id view.tableId view.snapshotOrder ∧ told view.serial id data
  settled : view.Settled

namespace Attributed

variable {told : Nat → Nat → Snapshot → Prop} {bound : Nat} {session other : Session} {view : View}

theorem inherit (h : view.Attributed told bound session) (hInherits : session.Inherits other) :
    view.Attributed told bound other where
  serial := h.serial
  older := h.older.inherit hInherits
  renderers entry hEntry generation hObserver := by
    obtain ⟨old, hOld, hSame, hBefore⟩ := hInherits.renderers entry hEntry _ _ hObserver
    obtain ⟨hBound, hAsked⟩ := h.renderers old hOld generation hBefore
    exact ⟨hBound, fun hNewest => hSame ▸ (hAsked hNewest).inherit hInherits⟩
  shown data hSnapshot := by
    obtain ⟨id, hAsked, hTold⟩ := h.shown data hSnapshot
    exact ⟨id, hAsked.inherit hInherits, hTold⟩
  settled := h.settled

theorem mono (h : view.Attributed told bound session) {told' : Nat → Nat → Snapshot → Prop}
    (hTold : ∀ serial id data, told serial id data → told' serial id data) :
    view.Attributed told' bound session where
  serial := h.serial
  older := h.older
  renderers := h.renderers
  shown data hSnapshot := by
    obtain ⟨id, hAsked, hBefore⟩ := h.shown data hSnapshot
    exact ⟨id, hAsked, hTold _ _ _ hBefore⟩
  settled := h.settled

/-- A new view has asked for nothing and shows nothing. -/
theorem new (tableId : ObjectId) (hOlder : session.Older bound) :
    (View.new tableId bound).Attributed told (bound + 1) session where
  serial := Nat.lt_succ_self bound
  older entry hEntry serial generation hObserver :=
    Nat.lt_succ_of_lt (hOlder entry hEntry serial generation hObserver)
  renderers entry hEntry generation hObserver :=
    absurd (hOlder entry hEntry bound generation hObserver) (Nat.lt_irrefl bound)
  shown _ hSnapshot := nomatch hSnapshot
  settled _ hSnapshot := nomatch hSnapshot

/-- The newest request asks for rows in the order that is current from then on. -/
theorem issue (h : view.Attributed told bound session) {call : Call} {order : SortOrder}
    (hCall : view.AsksFor order call) :
    ({ view with order := order }.issue call session).1.Attributed told bound
      ({ view with order := order }.issue call session).2 := by
  rw [issue_eq]
  set quiet := ({ view with order := order }.cancelInFlight session).2
  have hQuiet : session.Inherits quiet := .of_quiet (quiet_cancelInFlight _ session)
  have hBefore := h.inherit hQuiet
  refine ⟨h.serial, ?_, ?_, ?_, h.settled.asking order _ _⟩
  · intro entry hEntry serial generation hObserver
    rcases Session.mem_pending_invoke hEntry with hOld | ⟨-, hNew⟩
    · exact hBefore.older entry hOld serial generation hObserver
    · rw [hNew, Observer.renderer.injEq] at hObserver
      exact hObserver.1 ▸ h.serial
  · intro entry hEntry generation hObserver
    rcases Session.mem_pending_invoke hEntry with hOld | ⟨hId, hNew⟩
    · -- Renderers of former requests stay behind the new generation.
      have hBound := (hBefore.renderers entry hOld generation hObserver).1
      refine ⟨Nat.le_succ_of_le hBound, fun hNewest => ?_⟩
      exact absurd hNewest (Nat.ne_of_lt (Nat.lt_succ_of_le hBound))
    · rw [hNew, Observer.renderer.injEq] at hObserver
      refine ⟨Nat.le_of_eq hObserver.2.symm, fun _ => ?_⟩
      have hSent := quiet.sent_invoke call (.renderer view.serial (view.generation + 1))
      rw [hId]
      rcases hCall with rfl | ⟨hEmpty, rfl⟩
      · exact Or.inl hSent
      · exact Or.inr ⟨hEmpty, hSent⟩
  · intro data hSnapshot
    obtain ⟨id, hAsked, hTold⟩ := hBefore.shown data hSnapshot
    exact ⟨id, hAsked.imp Session.Sent.invoke (And.imp_right Session.Sent.invoke), hTold⟩

/-- The cursor and the request in flight have no part in it. -/
theorem of_eq {next : View} (h : view.Attributed told bound session) (hSettled : next.Settled)
    (hSame : next = { view with cursor := next.cursor, inFlight := next.inFlight }) :
    next.Attributed told bound session := by
  rw [hSame] at hSettled ⊢
  exact ⟨h.serial, h.older, h.renderers, h.shown, hSettled⟩

/-- Showing the snapshot once more changes nothing, whatever has been asked for since. -/
theorem adjusts {changed : View} (h : view.Attributed told bound session)
    (hAdjusts : view.Adjusts changed) : changed.Attributed told bound session := by
  cases hAdjusts with
  | previous => exact h.of_eq h.settled.selectPrevious rfl
  | next =>
      refine h.of_eq h.settled.selectNext ?_
      unfold View.selectNext
      split <;> rfl
  | again hSnapshot =>
      rw [h.settled _ hSnapshot]
      exact h

theorem requestFinished (h : view.Attributed told bound session) (generation : Nat) :
    (view.requestFinished generation).Attributed told bound session := by
  unfold View.requestFinished
  split
  · exact h.of_eq (h.settled.asking view.order view.generation none) rfl
  · exact h

/-- A snapshot that is shown was asked for in the order that is current, and this order is kept as
the one of the snapshot. -/
theorem acceptSnapshot (h : view.Attributed told bound session) {id generation : Nat}
    {data : Snapshot}
    (hAsked : generation = view.generation → session.Asked id view.tableId view.order)
    (hTold : told view.serial id data) :
    (view.acceptSnapshot generation data).Attributed told bound session := by
  unfold View.acceptSnapshot
  split
  · rename_i hNewest
    refine ⟨?_, h.older, ?_, ?_, settled_update _ data⟩
    · rw [serial_update]
      exact h.serial
    · simp only [serial_update, generation_update, tableId_update, order_update]
      exact h.renderers
    · intro other hOther
      rw [snapshot_update, Option.some.injEq] at hOther
      subst hOther
      simp only [serial_update, snapshotOrder_update, tableId_update]
      exact ⟨id, hAsked hNewest, hTold⟩
  · exact h

end Attributed

end View

end RemoteTable
