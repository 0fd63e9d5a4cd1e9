import Mathlib.Tactic.Common
import RemoteTable.Session.Progress
import RemoteTable.Proofs.Session.Pending

/-! What becomes of progress bars. Each bar that is made goes its own way: what is shown of it in the end
depends on the operations with its number behind it, and on nothing else. The bars shown are those that
have not been released since, in the order in which they were made. -/

namespace RemoteTable.Progress

/-- What can be done to the bars. Any number may be named, whether or not there is such a bar. -/
inductive Operation where
  | add (requestId : Nat) (description : String)
  | set (id : Nat) (done : Double)
  | release (id : Nat)
deriving DecidableEq

/-- What an operation makes of the bars. -/
def step (progress : Progress) : Operation → Progress
  | .add requestId description => (progress.add requestId description).2
  | .set id done => progress.set id done
  | .release id => (progress.release id).2

/-- The bars behind operations, one after the other. -/
def run (progress : Progress) (operations : List Operation) : Progress := operations.foldl step progress

@[simp] theorem run_nil (progress : Progress) : progress.run [] = progress := rfl

@[simp] theorem run_cons (progress : Progress) (operation : Operation) (operations : List Operation) :
    progress.run (operation :: operations) = (progress.step operation).run operations := rfl

/-- A bar as it is made, and the operations behind that. -/
structure Made where
  bar : ProgressBar
  later : List Operation

/-- The bars that operations make, the first one with the number `next`. -/
def made (next : Nat) : List Operation → List Made
  | [] => []
  | .add requestId description :: later =>
    ⟨⟨next, requestId, description, Double.zero⟩, later⟩ :: made (next + 1) later
  | .set _ _ :: later | .release _ :: later => made next later

/-- How much an operation says is done of the bar with a number. -/
def Operation.told? (id : Nat) : Operation → Option Double
  | .set other done => if other = id then some (done.clamp Double.zero (Double.ofNat 1)) else none
  | .add _ _ | .release _ => none

namespace Made

/-- What is shown of the bar in the end. A release takes it away, and the last operation to tell how much
is done of it counts. -/
def shown? (made : Made) : Option ProgressBar :=
  if .release made.bar.id ∈ made.later then none
  else some { made.bar with
    done := (made.later.filterMap (Operation.told? made.bar.id)).getLast?.getD made.bar.done }

variable (bar : ProgressBar) (later : List Operation)

theorem shown?_nil : shown? ⟨bar, []⟩ = some bar := rfl

/-- Further bars do not change one. -/
theorem shown?_add (requestId : Nat) (description : String) :
    shown? ⟨bar, .add requestId description :: later⟩ = shown? ⟨bar, later⟩ := by
  simp [shown?, Operation.told?]

/-- Progress is cut to the range from zero to one. -/
theorem shown?_set (id : Nat) (done : Double) :
    shown? ⟨bar, .set id done :: later⟩ =
      shown? ⟨if bar.id = id then
        { bar with done := done.clamp Double.zero (Double.ofNat 1) } else bar, later⟩ := by
  by_cases hOwn : bar.id = id
  · subst hOwn
    simp [shown?, Operation.told?, List.getLast?_cons]
  · have hOther : ¬ id = bar.id := fun hSame => hOwn hSame.symm
    simp [shown?, Operation.told?, hOwn, hOther]

/-- A released bar is not shown any more. -/
theorem shown?_release (id : Nat) :
    shown? ⟨bar, .release id :: later⟩ = if bar.id = id then none else shown? ⟨bar, later⟩ := by
  by_cases hOwn : bar.id = id
  · simp [shown?, hOwn]
  · simp [shown?, Operation.told?, hOwn]

/-- A bar keeps its number. -/
theorem id_of_shown? {made : Made} {bar : ProgressBar} (h : made.shown? = some bar) :
    bar.id = made.bar.id := by
  unfold shown? at h
  split at h
  · cases h
  · cases h
    rfl

end Made

section Split

variable {front back : List ProgressBar} {bar : ProgressBar} {id : Nat}

/-- Of the bars of a number, the first one shows that more is done. -/
theorem set_of_split {nextId : Nat} (hFront : ∀ other ∈ front, other.id ≠ id) (hOwn : bar.id = id)
    (done : Double) :
    (Progress.mk (front ++ bar :: back) nextId).set id done =
      ⟨front ++ { bar with done := done.clamp Double.zero (Double.ofNat 1) } :: back, nextId⟩ := by
  have hNone : front.findIdx (·.id == id) = front.length :=
    List.findIdx_eq_length.mpr (by simpa using hFront)
  have hPlace : (front ++ bar :: back).findIdx (·.id == id) = front.length := by
    rw [List.findIdx_append, hNone, if_neg (Nat.lt_irrefl _), List.findIdx_cons, beq_iff_eq.mpr hOwn,
      cond_true, Nat.zero_add]
  rw [set, hPlace, List.modify_eq_take_drop, List.take_left, List.drop_left]
  rfl

/-- Nothing changes if no bar has the number. -/
theorem set_of_not_mem {progress : Progress} (hNone : ∀ bar ∈ progress.bars, bar.id ≠ id)
    (done : Double) : progress.set id done = progress := by
  have hPlace : progress.bars.findIdx (·.id == id) = progress.bars.length :=
    List.findIdx_eq_length.mpr (by simpa using hNone)
  rw [set, hPlace, List.modify_eq_self (Nat.le_refl _)]

/-- Of the bars of a number, the first one goes. -/
theorem release_of_split {nextId : Nat} (hFront : ∀ other ∈ front, other.id ≠ id) (hOwn : bar.id = id) :
    ((Progress.mk (front ++ bar :: back) nextId).release id).2 = ⟨front ++ back, nextId⟩ := by
  have hOthers : ∀ other ∈ front, ¬ (other.id == id) = true := by simpa using hFront
  simp [release, List.eraseP_append_right _ hOthers, hOwn]

/-- No bar has the number, or there is a first one. -/
theorem not_mem_or_split (bars : List ProgressBar) (id : Nat) :
    (∀ bar ∈ bars, bar.id ≠ id) ∨ ∃ front bar back, bars = front ++ bar :: back ∧ bar.id = id ∧
      ∀ other ∈ front, other.id ≠ id := by
  cases hFound : bars.find? (·.id == id) with
  | none => exact Or.inl (by simpa using hFound)
  | some bar =>
      obtain ⟨hOwn, front, back, hBars, hFront⟩ := List.find?_eq_some_iff_append.mp hFound
      exact Or.inr ⟨front, bar, back, hBars, beq_iff_eq.mp hOwn, by simpa using hFront⟩

end Split

/-- Showing more progress changes only how much is done. -/
theorem map_bars_set {α : Type} {field : ProgressBar → α}
    (hField : ∀ bar done, field { bar with done := done } = field bar) (progress : Progress)
    (id : Nat) (done : Double) :
    (progress.set id done).bars.map field = progress.bars.map field := by
  rcases not_mem_or_split progress.bars id with hNone | ⟨front, bar, back, hBars, hOwn, hFront⟩
  · rw [set_of_not_mem hNone]
  · obtain ⟨bars, nextId⟩ := progress
    obtain rfl : bars = front ++ bar :: back := hBars
    simp [set_of_split hFront hOwn, hField]

/-- A bar keeps its number and its request when more of it is done. -/
theorem exists_bar_set {progress : Progress} {bar : ProgressBar} (hBar : bar ∈ progress.bars)
    (id : Nat) (done : Double) :
    ∃ shown ∈ (progress.set id done).bars,
      shown.id = bar.id ∧ shown.requestId = bar.requestId := by
  have hFields : (bar.id, bar.requestId) ∈ progress.bars.map fun bar => (bar.id, bar.requestId) :=
    List.mem_map_of_mem hBar
  rw [← map_bars_set (fun _ _ => rfl) progress id done] at hFields
  obtain ⟨shown, hShown, hSame⟩ := List.mem_map.mp hFields
  exact ⟨shown, hShown, Prod.mk.inj hSame⟩

/-- The bars are in the order of their numbers, and all numbers from `nextId` on are free. -/
structure Ordered (progress : Progress) : Prop where
  increasing : progress.bars.Pairwise (·.id < ·.id)
  below : ∀ bar ∈ progress.bars, bar.id < progress.nextId

namespace Ordered

variable {progress : Progress}

/-- Numbers of bars that increase are not repeated. -/
theorem nodup (h : progress.Ordered) : (progress.bars.map ProgressBar.id).Nodup :=
  List.pairwise_map.mpr (h.increasing.imp Nat.ne_of_lt)

/-- Only the bar of the number shows that more is done. -/
theorem bars_set (h : progress.Ordered) (id : Nat) (done : Double) :
    (progress.set id done).bars = progress.bars.map fun bar =>
      if bar.id = id then { bar with done := done.clamp Double.zero (Double.ofNat 1) } else bar := by
  have hOthers : ∀ bars : List ProgressBar, (∀ bar ∈ bars, bar.id ≠ id) →
      bars = bars.map fun bar =>
        if bar.id = id then { bar with done := done.clamp Double.zero (Double.ofNat 1) } else bar :=
    fun bars hNone => (List.map_id' bars).symm.trans
      (List.map_congr_left fun bar hBar => (if_neg (hNone bar hBar)).symm)
  rcases not_mem_or_split progress.bars id with hNone | ⟨front, bar, back, hBars, hOwn, hFront⟩
  · rw [set_of_not_mem hNone]
    exact hOthers _ hNone
  · have hOrder := h.increasing
    obtain ⟨bars, nextId⟩ := progress
    obtain rfl : bars = front ++ bar :: back := hBars
    obtain ⟨-, hBehind, -⟩ := List.pairwise_append.mp hOrder
    have hBack : ∀ other ∈ back, other.id ≠ id := fun other hOther =>
      hOwn ▸ Nat.ne_of_gt (List.rel_of_pairwise_cons hBehind hOther)
    rw [set_of_split hFront hOwn, List.map_append, List.map_cons, ← hOthers front hFront,
      ← hOthers back hBack, if_pos hOwn]

/-- Only the bar of the number goes. -/
theorem bars_release (h : progress.Ordered) (id : Nat) :
    (progress.release id).2.bars = progress.bars.filter (·.id != id) :=
  eraseP_key_eq_filter h.nodup id

theorem step (h : progress.Ordered) (operation : Operation) : (progress.step operation).Ordered := by
  cases operation with
  | add requestId description =>
      refine ⟨?_, ?_⟩
      · apply List.pairwise_append.mpr
        refine ⟨h.increasing, List.pairwise_singleton _ _, fun bar hBar other hNew => ?_⟩
        rw [List.mem_singleton.mp hNew]
        exact h.below bar hBar
      · intro bar hBar
        rcases List.mem_append.mp hBar with hOld | hNew
        · exact Nat.lt_succ_of_lt (h.below bar hOld)
        · rw [List.mem_singleton.mp hNew]
          exact Nat.lt_succ_self progress.nextId
  | set id done =>
      have hIds : (progress.set id done).bars.map ProgressBar.id = progress.bars.map ProgressBar.id :=
        map_bars_set (fun _ _ => rfl) progress id done
      refine ⟨?_, fun bar hBar => ?_⟩
      · apply List.pairwise_map.mp
        show ((progress.set id done).bars.map ProgressBar.id).Pairwise (· < ·)
        rw [hIds]
        exact List.pairwise_map.mpr h.increasing
      · have hId : bar.id ∈ (progress.set id done).bars.map ProgressBar.id := List.mem_map_of_mem hBar
        rw [hIds] at hId
        obtain ⟨old, hOld, hSame⟩ := List.mem_map.mp hId
        exact hSame ▸ h.below old hOld
  | release id =>
      exact ⟨h.increasing.sublist List.eraseP_sublist,
        fun bar hBar => h.below bar (List.mem_of_mem_eraseP hBar)⟩

/-- Bars stay in the order of their numbers in every run. -/
theorem run (h : progress.Ordered) (operations : List Operation) :
    (progress.run operations).Ordered := by
  induction operations generalizing progress with
  | nil => exact h
  | cons operation operations ih => exact ih (h.step operation)

/-- After any operations, the bars that were there and those that have been made are shown as their own
histories tell. -/
theorem bars_run (h : progress.Ordered) (operations : List Operation) :
    (progress.run operations).bars =
      progress.bars.filterMap (fun bar => Made.shown? ⟨bar, operations⟩) ++
        (made progress.nextId operations).filterMap Made.shown? := by
  induction operations generalizing progress with
  | nil =>
      have hSame : (fun bar => Made.shown? ⟨bar, []⟩) = some := funext Made.shown?_nil
      rw [run_nil, made, List.filterMap_nil, List.append_nil, hSame, List.filterMap_some]
  | cons operation operations ih =>
      rw [run_cons, ih (h.step operation)]
      cases operation with
      | add requestId description =>
          -- The new bar is the last of those that are there, and the first of those that are made.
          simp only [Progress.step, Progress.add, made, Made.shown?_add, List.filterMap_append,
            List.filterMap_cons, List.filterMap_nil, List.append_assoc]
          split <;> rfl
      | set id done =>
          simp only [Progress.step, made, Made.shown?_set]
          rw [h.bars_set, List.filterMap_map]
          rfl
      | release id =>
          have hLeft : ∀ bar : ProgressBar, (Made.shown? ⟨bar, .release id :: operations⟩) =
              if (bar.id != id) = true then Made.shown? ⟨bar, operations⟩ else none := by
            intro bar
            rw [Made.shown?_release]
            by_cases hOwn : bar.id = id <;> simp [hOwn]
          simp only [hLeft, made, Progress.step]
          rw [h.bars_release, List.filterMap_filter]
          rfl

end Ordered

theorem ordered_empty : empty.Ordered :=
  ⟨List.Pairwise.nil, fun _ hBar => absurd hBar List.not_mem_nil⟩

/-- Each bar that is made takes one number. -/
theorem nextId_run (progress : Progress) (operations : List Operation) :
    (progress.run operations).nextId = progress.nextId + (made progress.nextId operations).length := by
  induction operations generalizing progress with
  | nil => rfl
  | cons operation operations ih =>
      rw [run_cons, ih]
      cases operation with
      | add requestId description =>
          simp only [step, add, made, List.length_cons]
          omega
      | set id done => rfl
      | release id => rfl

/-- No number is used twice. -/
theorem ids_made (next : Nat) (operations : List Operation) :
    (made next operations).map (·.bar.id) =
      List.range' next (made next operations).length := by
  induction operations generalizing next with
  | nil => rfl
  | cons operation operations ih =>
      cases operation with
      | add requestId description =>
          rw [made, List.map_cons, ih, List.length_cons, List.range'_succ]
      | set id done => exact ih next
      | release id => exact ih next

/-- What is done to one bar has no part in the others, and what is done to none changes nothing. A bar
that is released is not there any more. -/
structure Separate (progress : Progress) : Prop where
  set_of_mem : ∀ front bar back done, progress.bars = front ++ bar :: back →
    progress.set bar.id done =
      ⟨front ++ { bar with done := done.clamp Double.zero (Double.ofNat 1) } :: back, progress.nextId⟩
  set_of_not_mem : ∀ id done, (∀ bar ∈ progress.bars, bar.id ≠ id) → progress.set id done = progress
  release_of_mem : ∀ front bar back, progress.bars = front ++ bar :: back →
    progress.release bar.id = (true, ⟨front ++ back, progress.nextId⟩)
  release_of_not_mem : ∀ id, (∀ bar ∈ progress.bars, bar.id ≠ id) →
    progress.release id = (false, progress)

/-- Bars with numbers of their own are separate. -/
theorem Ordered.separate {progress : Progress} (h : progress.Ordered) : progress.Separate where
  set_of_mem front bar back done hBars := by
    obtain ⟨bars, nextId⟩ := progress
    obtain rfl : bars = front ++ bar :: back := hBars
    obtain ⟨-, -, hAcross⟩ := List.pairwise_append.mp h.increasing
    exact set_of_split (fun other hOther => Nat.ne_of_lt (hAcross other hOther bar List.mem_cons_self))
      rfl done
  set_of_not_mem id done hNone := set_of_not_mem hNone done
  release_of_mem front bar back hBars := by
    obtain ⟨bars, nextId⟩ := progress
    obtain rfl : bars = front ++ bar :: back := hBars
    obtain ⟨-, -, hAcross⟩ := List.pairwise_append.mp h.increasing
    apply Prod.ext
    · simp [release]
    · exact release_of_split (fun other hOther =>
        Nat.ne_of_lt (hAcross other hOther bar List.mem_cons_self)) rfl
  release_of_not_mem id hNone := by
    have hAny : (progress.bars.any fun bar => bar.id == id) = false := by simpa using hNone
    have hSame : progress.bars.eraseP (fun bar => bar.id == id) = progress.bars :=
      List.eraseP_of_forall_not (by simpa using hNone)
    rw [release, hAny, hSame]

/-- A release finds a bar exactly if one of its number has been made and not been released since. -/
theorem release_run_iff (operations : List Operation) (id : Nat) :
    ((empty.run operations).release id).1 = true ↔
      ∃ entry ∈ made 0 operations, entry.bar.id = id ∧ .release id ∉ entry.later := by
  have hBars := ordered_empty.bars_run operations
  rw [release, List.any_eq_true]
  simp only [beq_iff_eq]
  rw [hBars]
  constructor
  · rintro ⟨bar, hBar, rfl⟩
    obtain ⟨entry, hMade, hShown⟩ := List.mem_filterMap.mp hBar
    refine ⟨entry, hMade, (Made.id_of_shown? hShown).symm, fun hReleased => ?_⟩
    rw [Made.id_of_shown? hShown] at hReleased
    simp [Made.shown?, hReleased] at hShown
  · rintro ⟨entry, hMade, rfl, hKept⟩
    have hShown : entry.shown?.isSome := by simp [Made.shown?, hKept]
    obtain ⟨bar, hBar⟩ := Option.isSome_iff_exists.mp hShown
    exact ⟨bar, List.mem_filterMap.mpr ⟨entry, hMade, hBar⟩, Made.id_of_shown? hBar⟩

/-- Progress bars follow their histories. After any operations, whatever numbers these name, exactly the
bars that have been made and not been released since are shown, in the order in which they were made, each
with the fraction that it was told last. Their numbers increase, every bar that was ever made has a number
of its own, and the next one is not among them. A release finds a bar exactly if it is the first one of
that number since the bar was made. An operation on one bar changes no other one, and one on a number
without a bar changes nothing. -/
theorem bars_follow_histories (operations : List Operation) :
    let progress := empty.run operations
    let history := made 0 operations
    progress.bars = history.filterMap Made.shown? ∧
    progress.bars.Pairwise (·.id < ·.id) ∧
    history.map (·.bar.id) = List.range history.length ∧
    (∀ requestId description, (progress.add requestId description).1 = history.length) ∧
    (∀ id, (progress.release id).1 = true ↔
      ∃ entry ∈ history, entry.bar.id = id ∧ .release id ∉ entry.later) ∧
    progress.Separate := by
  intro progress history
  have hOrdered : progress.Ordered := ordered_empty.run operations
  refine ⟨ordered_empty.bars_run operations, hOrdered.increasing, ?_, fun requestId description => ?_,
    release_run_iff operations, hOrdered.separate⟩
  · rw [ids_made, List.range_eq_range']
  · have hNext := empty.nextId_run operations
    rw [add, hNext]
    exact Nat.zero_add _

end RemoteTable.Progress
