import Mathlib.Data.List.Nodup
import RemoteTable.Proofs.Session.Conduct

/-! Requests that wait for replies, as a table by number. -/

namespace RemoteTable

section Keyed

variable {α β : Type} [BEq β] [LawfulBEq β] {key : α → β} {entries : List α}

/-- Without repeated keys, erasing a key leaves exactly the entries of the other ones. -/
theorem eraseP_key_eq_filter (hKeys : (entries.map key).Nodup) (id : β) :
    entries.eraseP (key · == id) = entries.filter (key · != id) := by
  induction entries with
  | nil => rfl
  | cons head rest ih =>
      rw [List.map_cons, List.nodup_cons] at hKeys
      by_cases hHead : key head = id
      · have hRest : ∀ other ∈ rest, (key other != id) = true := fun other hOther =>
          bne_iff_ne.mpr fun hSame =>
            hKeys.1 (List.mem_map.mpr ⟨other, hOther, hSame.trans hHead.symm⟩)
        rw [List.eraseP_cons_of_pos (by simp [hHead]), List.filter_cons_of_neg (by simp [hHead]),
          List.filter_eq_self.mpr hRest]
      · rw [List.eraseP_cons_of_neg (by simp [hHead]), List.filter_cons_of_pos (by simp [hHead]),
          ih hKeys.2]

theorem mem_eraseP_key (hKeys : (entries.map key).Nodup) {id : β} {entry : α} :
    entry ∈ entries.eraseP (key · == id) ↔ entry ∈ entries ∧ key entry ≠ id := by
  rw [eraseP_key_eq_filter hKeys, List.mem_filter, bne_iff_ne]

omit [LawfulBEq β] in
theorem nodup_eraseP {γ : Type} {other : α → γ} (hOthers : (entries.map other).Nodup) (id : β) :
    ((entries.eraseP (key · == id)).map other).Nodup :=
  (List.eraseP_sublist.map other).nodup hOthers

omit [BEq β] [LawfulBEq β] in
/-- Entries with equal keys are equal. -/
theorem eq_of_key_eq (hKeys : (entries.map key).Nodup) {first second : α}
    (hFirst : first ∈ entries) (hSecond : second ∈ entries) (hSame : key first = key second) :
    first = second :=
  List.inj_on_of_nodup_map hKeys hFirst hSecond hSame

end Keyed

namespace Session

variable {session : Session} {id : Nat} {pending : Pending}

theorem mem_of_pending? (h : session.pending? id = some pending) :
    (id, pending) ∈ session.pending := by
  obtain ⟨before, after, hSplit, -⟩ := List.lookup_eq_some_iff.mp h
  simp [hSplit]

theorem pending?_eq_none_iff :
    session.pending? id = none ↔ id ∉ session.pending.map Prod.fst := by
  rw [pending?, List.lookup_eq_none_iff]
  constructor
  · rintro hNone hId
    obtain ⟨entry, hEntry, rfl⟩ := List.mem_map.mp hId
    simpa using hNone entry hEntry
  · intro hId entry hEntry
    exact bne_iff_ne.mpr fun hSame => hId (hSame ▸ List.mem_map_of_mem hEntry)

/-- The table is determined by its entries as long as no number is repeated. -/
theorem pending?_eq_some_iff (hKeys : (session.pending.map Prod.fst).Nodup) :
    session.pending? id = some pending ↔ (id, pending) ∈ session.pending := by
  refine ⟨mem_of_pending?, fun hEntry => ?_⟩
  cases hFound : session.pending? id with
  | none => exact absurd (List.mem_map_of_mem hEntry) (pending?_eq_none_iff.mp hFound)
  | some found =>
      have hSame := eq_of_key_eq hKeys (mem_of_pending? hFound) hEntry rfl
      rw [(Prod.mk.inj hSame).2]

theorem mem_unregister (hKeys : (session.pending.map Prod.fst).Nodup) {entry : Nat × Pending} :
    entry ∈ (session.unregister id).pending ↔ entry ∈ session.pending ∧ entry.1 ≠ id :=
  mem_eraseP_key hKeys

theorem mem_register {entry : Nat × Pending} :
    entry ∈ (session.register id pending).pending ↔
      entry ∈ session.pending ∨ entry = (id, pending) := by
  simp [register]

theorem pending?_unregister_self (hKeys : (session.pending.map Prod.fst).Nodup) :
    (session.unregister id).pending? id = none := by
  rw [pending?_eq_none_iff]
  intro hId
  obtain ⟨entry, hLeft, hSame⟩ := List.mem_map.mp hId
  exact ((mem_unregister hKeys).mp hLeft).2 hSame

theorem pending?_unregister_of_ne {other : Nat} (hOther : other ≠ id) :
    (session.unregister id).pending? other = session.pending? other := by
  unfold pending? unregister
  induction session.pending with
  | nil => rfl
  | cons head rest ih =>
      obtain ⟨key, value⟩ := head
      by_cases hHead : key = id
      · subst hHead
        rw [List.eraseP_cons_of_pos (by simp), List.lookup_cons,
          beq_eq_false_iff_ne.mpr hOther]
      · rw [List.eraseP_cons_of_neg (by simp [hHead]), List.lookup_cons, List.lookup_cons, ih]

theorem pending?_register_self (hNew : session.pending? id = none) :
    (session.register id pending).pending? id = some pending := by
  unfold pending? register at *
  rw [List.lookup_append, hNew]
  simp

theorem pending?_register_of_ne {other : Nat} (hOther : other ≠ id) :
    (session.register id pending).pending? other = session.pending? other := by
  unfold pending? register
  rw [List.lookup_append, List.lookup_cons, beq_eq_false_iff_ne.mpr hOther]
  simp

theorem pending?_invoke (call : Call) (observer : Observer)
    (hNew : session.pending? session.nextRequestId = none) (id : Nat) :
    (session.invoke call observer).2.pending? id =
      if id = session.nextRequestId then some ⟨call.objectId, session.newReceiver observer⟩
      else session.pending? id := by
  have hPending : (session.invoke call observer).2.pending? id =
      (session.register session.nextRequestId
        ⟨call.objectId, session.newReceiver observer⟩).pending? id := by
    rw [pending?, pending?, pending_invoke, register]
  rw [hPending]
  split
  · rename_i hId
    rw [hId, pending?_register_self hNew]
  · rename_i hId
    exact pending?_register_of_ne hId

/-- A use of the session leaves the requests issued before as they are. -/
theorem Uses.pending?_eq {other : Session} (h : session.Uses other)
    (hIssued : id < session.nextRequestId) : other.pending? id = session.pending? id := by
  cases h with
  | quiet hQuiet => rw [pending?, pending?, hQuiet.pending_eq]
  | issue hQuiet call observer =>
      have hOther : id ≠ session.nextRequestId := Nat.ne_of_lt hIssued
      rw [pending?, pending_invoke, hQuiet.nextRequestId_eq, List.lookup_append, List.lookup_cons,
        beq_eq_false_iff_ne.mpr hOther, pending?, hQuiet.pending_eq]
      simp

theorem Uses.nextRequestId_le {other : Session} (h : session.Uses other) :
    session.nextRequestId ≤ other.nextRequestId := by
  cases h with
  | quiet hQuiet => exact Nat.le_of_eq hQuiet.nextRequestId_eq.symm
  | issue hQuiet call observer =>
      rw [nextRequestId_invoke, hQuiet.nextRequestId_eq]
      exact Nat.le_succ _

theorem Uses.accepts_eq {other : Session} (h : session.Uses other) :
    other.accepts = session.accepts := by
  cases h with
  | quiet hQuiet => exact hQuiet.accepts_eq
  | issue hQuiet call observer =>
      rw [snd_invoke]
      exact hQuiet.accepts_eq

/-- A use that hands out a number issues the request of that number last. -/
theorem Uses.issue_of_lt {other : Session} (h : session.Uses other)
    (hOld : session.nextRequestId ≤ id) (hNew : id < other.nextRequestId) :
    ∃ earlier call observer, other = (Session.invoke earlier call observer).2 ∧
      earlier.nextRequestId = id := by
  cases h with
  | quiet hQuiet =>
      rw [hQuiet.nextRequestId_eq] at hNew
      exact absurd hNew (Nat.not_lt.mpr hOld)
  | @issue earlier hQuiet call observer =>
      have hNext := hQuiet.nextRequestId_eq
      rw [nextRequestId_invoke] at hNew
      exact ⟨earlier, call, observer, rfl, by omega⟩

end Session

end RemoteTable
