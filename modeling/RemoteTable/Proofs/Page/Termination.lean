import RemoteTable.Proofs.Page.Draining

/-! The loop over the queue comes to an end. It has no bound of its own: it handles the first waiting reply
as long as there is one, and on the way receivers put further replies into the queue and register further
requests. All that is left to be done has a bound, and each turn lowers it. -/

namespace RemoteTable

/-- Three replies are the most: the end of the request for a table, the cancellation of what the former
view had in flight, and the end of the request for the schema. -/
theorem Observer.weight_le (observer : Observer) : observer.weight ≤ 3 := by
  unfold weight
  split <;> decide

theorem Session.outstanding_le (entries : List (Nat × Pending)) :
    outstanding entries ≤ 3 * entries.length := by
  induction entries with
  | nil => exact Nat.le_refl 0
  | cons entry rest ih =>
      have hFirst := entry.2.receiver.observer.weight_le
      simp only [outstanding, List.foldr_cons, List.length_cons] at ih ⊢
      omega

namespace Page

/-- The loop over the queue of the first page ends with the last one, after this many turns. -/
inductive Drains : Page → Nat → Page → Prop where
  | done {page : Page} (hEmpty : page.pumpOne = none) : Drains page 0 page
  | turn {page next last : Page} {count : Nat} (hFirst : page.pumpOne = some next)
      (hRest : Drains next count last) : Drains page (count + 1) last

variable {page next last : Page} {count : Nat}

/-- The loop ends at an empty queue. -/
theorem pumpOne_eq_none_iff : page.pumpOne = none ↔ page.session.queue = [] := by
  unfold pumpOne
  split <;> simp [*]

/-- A turn of the loop keeps the requests in balance with their bars, and it lowers the bound. -/
theorem pumpOne_lowers (h : page.session.Balanced) (hFirst : page.pumpOne = some next) :
    next.session.Balanced ∧ next.pumpBound < page.pumpBound := by
  have hNext : page.step .handleNext = next := by rw [step, hFirst, Option.getD_some]
  have hTurn : Turn page next := hNext ▸ turn_of_balanced h
  have hQueue : page.session.queue ≠ [] := fun hEmpty => by
    rw [pumpOne_eq_none_iff.mpr hEmpty] at hFirst
    cases hFirst
  exact ⟨balanced_turn h hTurn, pumpBound_turn_lt h hTurn hQueue⟩

/-- The loop ends, since each turn lowers the bound. -/
theorem exists_drains (h : page.session.Balanced) :
    ∃ count last, page.Drains count last ∧ count ≤ page.pumpBound := by
  induction hBound : page.pumpBound using Nat.strongRecOn generalizing page with
  | ind bound ih =>
      subst hBound
      cases hFirst : page.pumpOne with
      | none => exact ⟨0, page, .done hFirst, Nat.zero_le _⟩
      | some next =>
          obtain ⟨hNext, hLess⟩ := pumpOne_lowers h hFirst
          obtain ⟨count, last, hRest, hCount⟩ := ih next.pumpBound hLess hNext rfl
          exact ⟨count + 1, last, .turn hFirst hRest, by omega⟩

/-- After some turns the bound is lower by at least as many. -/
theorem pumpBound_turns_le {pages : Nat → Page} (h : (pages 0).session.Balanced)
    (hTurns : ∀ turn, (pages turn).pumpOne = some (pages (turn + 1))) (turn : Nat) :
    (pages turn).session.Balanced ∧ (pages turn).pumpBound + turn ≤ (pages 0).pumpBound := by
  induction turn with
  | zero => exact ⟨h, Nat.le_refl _⟩
  | succ turn ih =>
      obtain ⟨hNext, hLess⟩ := pumpOne_lowers ih.1 (hTurns turn)
      exact ⟨hNext, by omega⟩

namespace Drains

theorem queue_eq (h : page.Drains count last) : last.session.queue = [] := by
  induction h with
  | done hEmpty => exact pumpOne_eq_none_iff.mp hEmpty
  | turn _ _ ih => exact ih

/-- A limit on the turns makes no difference if the loop ends within it. -/
theorem pumpUpTo_eq (h : page.Drains count last) {fuel : Nat} (hFuel : count ≤ fuel) :
    pumpUpTo fuel page = (count, last) := by
  induction h generalizing fuel with
  | done hEmpty =>
      cases fuel with
      | zero => rfl
      | succ fuel => rw [pumpUpTo, hEmpty]
  | turn hFirst _ ih =>
      cases fuel with
      | zero => exact absurd hFuel (Nat.not_succ_le_zero _)
      | succ fuel =>
          simp only [pumpUpTo, hFirst, ih (Nat.le_of_succ_le_succ hFuel)]

/-- There is one way through the loop. -/
theorem unique (h : page.Drains count last) {other : Nat} {final : Page}
    (hOther : page.Drains other final) : (count, last) = (other, final) := by
  rw [← h.pumpUpTo_eq (Nat.le_max_left count other)]
  exact hOther.pumpUpTo_eq (Nat.le_max_right count other)

end Drains

/-- Working off the queue comes to an end. On every page that a run leads to, over any transport and with
any replies in the queue, the loop that handles the first waiting reply as long as there is one ends with
an empty queue, and it does not go on for ever. It handles no more replies than there are in the queue and
three for each request that waits at the beginning, those included that observers cause on the way. -/
theorem pump_comes_to_end (accepts : Nat → Bool) (operations : List Operation)
    (queue : List ReplyFrame) :
    let page := ((opened accepts).run operations).withQueue queue
    page.Drains page.pump.1 page.pump.2 ∧
    (∀ count last, page.Drains count last → (count, last) = page.pump) ∧
    page.pump.2.session.queue = [] ∧
    page.pump.1 ≤ queue.length + 3 * page.session.pending.length ∧
    ∀ pages : Nat → Page, pages 0 = page →
      ¬ ∀ turn, (pages turn).pumpOne = some (pages (turn + 1)) := by
  intro page
  have hBalanced : page.session.Balanced :=
    (balanced_run (.fresh accepts) operations).of_eq rfl rfl rfl
  obtain ⟨count, last, hDrains, hCount⟩ := exists_drains hBalanced
  have hPump : page.pump = (count, last) := hDrains.pumpUpTo_eq hCount
  have hBound : page.pumpBound ≤ queue.length + 3 * page.session.pending.length := by
    have hOutstanding := Session.outstanding_le page.session.pending
    have hQueue : page.session.queue.length = queue.length := rfl
    rw [pumpBound_eq]
    omega
  rw [hPump]
  refine ⟨hDrains, fun other final hOther => hOther.unique hDrains, hDrains.queue_eq,
    Nat.le_trans hCount hBound, ?_⟩
  rintro pages hStart hTurns
  have hLast := (pumpBound_turns_le (hStart ▸ hBalanced) hTurns (page.pumpBound + 1)).2
  rw [hStart] at hLast
  omega

/-- Four replies in the queue lead to three more over a transport that takes two frames: two requests cannot
be sent, and one is given up for a new view. -/
example :
    let loaded : Json := .object [("done", .int 1), ("data", .string "other")]
    let page := ((opened (· < 2)).run [.start, .showTable ⟨"t"⟩]).withQueue
      [⟨1, .next (.string "files")⟩, ⟨1, .completed⟩, ⟨3, .next loaded⟩, ⟨3, .completed⟩]
    page.pump.1 = 7 ∧ page.pump.2.session.queue = [] := by
  decide +kernel

end Page

end RemoteTable
