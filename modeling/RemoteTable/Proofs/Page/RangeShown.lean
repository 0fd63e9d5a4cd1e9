import RemoteTable.Proofs.Page.Lineage
import RemoteTable.Proofs.Page.RangeResult

/-! What becomes of the range that is shown over the table. The end of a request brings one, the user
closes it, or another view takes the place of the current one; nothing else changes it. As long as the
view is not replaced, the last range that has come is the one that is shown. -/

namespace RemoteTable

/-- The range that an observer shows at the end of its request. -/
def Observer.result? (page : Page) : Observer → Option Range
  | rangeCollector serial column (some statistics) =>
    if (page.viewFor? serial).isSome then some ⟨column, statistics⟩ else none
  | _ => none

namespace Page

/-- The range that the first waiting reply brings. -/
def result? (page : Page) : Option Range :=
  match page.session.queue.head? with
  | none => none
  | some frame =>
    match page.session.pending? frame.requestId with
    | none => none
    | some pending =>
      if (pending.receiver.react frame.reply).1.finished then
        pending.receiver.observer.result? page
      else none

/-- The range that an operation brings. -/
def resultIn (page : Page) : Operation → Option Range
  | .handleNext => page.result?
  | _ => none

/-- The ranges that come in a run, in order. -/
def results (page : Page) : List Operation → List Range
  | [] => []
  | operation :: rest => (page.resultIn operation).toList ++ (page.step operation).results rest

/-- A new view has taken the place of the current one, and the range is closed. -/
def Replaces (page next : Page) : Prop :=
  next.range = none ∧ ∃ later, next.view = some later ∧ page.nextSerial ≤ later.serial

variable {page next : Page}

theorem range_withView (page : Page) (action : View → Session → View × Session) :
    (page.withView action).range = page.range := by
  unfold withView
  split <;> rfl

/-- A new view closes the range of the former one. -/
theorem replaces_newView (page : Page) (tableId : ObjectId) : page.Replaces (page.newView tableId) :=
  ⟨rfl, _, rfl, Nat.le_refl _⟩

theorem replaces_showTable (page : Page) (tableId : ObjectId) :
    page.Replaces (page.showTable tableId) :=
  ⟨rfl, _, rfl, Nat.le_refl _⟩

/-- A view that is replaced does not become current again. -/
theorem Replaces.serial?_ne (h : page.Replaces next) (hNumbered : page.Numbered) :
    next.serial? ≠ page.serial? := by
  obtain ⟨-, later, hLater, hNew⟩ := h
  intro hSame
  rw [serial?, hLater, Option.map_some, eq_comm, serial?, Option.map_eq_some_iff] at hSame
  obtain ⟨view, hView, hSerial⟩ := hSame
  have hOld := hNumbered view hView
  omega

/-- At the end of a request the range is replaced by what has been found, if the view is not. -/
theorem range_onCompleted (observer : Observer) (page : Page) :
    (observer.onCompleted page).range = (observer.result? page).or page.range ∧
        (observer.onCompleted page).nextSerial = page.nextSerial ∨
      observer.result? page = none ∧ page.Replaces (observer.onCompleted page) := by
  unfold Observer.onCompleted
  split
  · exact Or.inl ⟨rfl, rfl⟩
  · exact Or.inr ⟨rfl, page.replaces_showTable _⟩
  · exact Or.inl ⟨rfl, rfl⟩
  · rw [Observer.result?]
    split <;> exact Or.inl ⟨rfl, rfl⟩
  all_goals exact Or.inl ⟨rfl, rfl⟩

/-- A range comes at the end of the request for it. -/
theorem result?_eq (page : Page) : page.result? = page.ending?.bind (Observer.result? page) := by
  cases hQueue : page.session.queue.head? with
  | none => simp [result?, ending?, hQueue]
  | some frame =>
      cases hPending : page.session.pending? frame.requestId with
      | none => simp [result?, ending?, hQueue, hPending]
      | some pending =>
          simp only [result?, ending?, hQueue, hPending, Option.bind_some]
          split <;> rfl

/-- The handling of a reply shows the range it brings, or else leaves it, unless the view is
replaced. -/
theorem range_turn (h : page.session.Balanced) (hTurn : Turn page next) :
    next.range = page.result?.or page.range ∧ next.nextSerial = page.nextSerial ∨
      page.result? = none ∧ page.Replaces next := by
  rw [result?_eq]
  cases hTurn with
  | idle hEmpty =>
      rw [ending?_of_idle hEmpty]
      exact Or.inl ⟨rfl, rfl⟩
  | unknown hQueue hUnknown =>
      rw [ending?_of_unknown hQueue hUnknown]
      exact Or.inl ⟨rfl, rfl⟩
  | accepted hQueue hPending hDecodes =>
      rw [ending?_of_accepted h hPending hQueue rfl hDecodes]
      exact Or.inl ⟨range_resume _ _ _ _ _ _, nextSerial_resume _ _ _ _ _ _⟩
  | @ended frame pending error hQueue hPending hEnds =>
      rw [finish_eq_onCompleted h hPending, ending?_of_ended h hPending hQueue hEnds]
      exact range_onCompleted pending.receiver.observer
        (page.concluded frame.requestId pending.receiver error)

/-- The user closes the range, a view is replaced, or else the range that has come is shown, if there
is one. -/
theorem range_step (h : page.session.Balanced) {operation : Operation}
    (hOrdinary : operation.IsOrdinary) (hForeign : ∀ range, operation ≠ .showRange range) :
    operation = .closeRange ∨
      (page.step operation).range = (page.resultIn operation).or page.range ∧
        (page.step operation).nextSerial = page.nextSerial ∨
      page.resultIn operation = none ∧ page.Replaces (page.step operation) := by
  cases operation with
  | closeRange => exact Or.inl rfl
  | handleNext => exact Or.inr (range_turn h (turn_of_balanced h))
  | newView tableId => exact Or.inr (Or.inr ⟨rfl, page.replaces_newView tableId⟩)
  | showTable tableId => exact Or.inr (Or.inr ⟨rfl, page.replaces_showTable tableId⟩)
  | goHome =>
      simp only [step, goHome]
      split
      · exact Or.inr (Or.inl ⟨rfl, rfl⟩)
      · exact Or.inr (Or.inr ⟨rfl, page.replaces_showTable _⟩)
  | noRows | showColumn | requestRange =>
      exact Or.inr (Or.inl ⟨page.range_withView _, page.nextSerial_withView _⟩)
  | showAllRows =>
      simp only [step, showAllRows]
      split
      · exact Or.inr (Or.inl ⟨rfl, rfl⟩)
      · exact Or.inr (Or.inl ⟨page.range_withView _, page.nextSerial_withView _⟩)
  | refresh =>
      simp only [step, refresh]
      split
      · exact Or.inr (Or.inl ⟨rfl, rfl⟩)
      · exact Or.inr (Or.inl ⟨page.range_withView _, page.nextSerial_withView _⟩)
  | showRange range => exact absurd rfl (hForeign range)
  | start | loadTable | selectPrevious | selectNext | cancel | cancelAll | reportError | receive =>
      exact Or.inr (Or.inl ⟨rfl, rfl⟩)
  | invoke | setView | changeView => exact hOrdinary.elim

/-- The operation shows a range of any origin, or it closes the one that is shown. -/
def Operation.SetsRange : Operation → Prop
  | .showRange _ | .closeRange => True
  | _ => False

/-- As long as the view is not replaced and the user closes nothing, the last range that has come is
shown. -/
theorem range_run (h : page.session.Balanced) (hNumbered : page.Numbered)
    {operations : List Operation} (hOrdinary : ∀ operation ∈ operations, operation.IsOrdinary)
    (hKept : ∀ operation ∈ operations, ¬ operation.SetsRange)
    (hSame : (page.run operations).serial? = page.serial?) :
    (page.run operations).range = (page.results operations).getLast?.or page.range := by
  induction operations generalizing page with
  | nil => rfl
  | cons operation rest ih =>
      obtain ⟨hFirst, hRest⟩ := List.forall_mem_cons.mp hOrdinary
      obtain ⟨hOwn, hOthers⟩ := List.forall_mem_cons.mp hKept
      have hStep := balanced_step h operation
      have hDevelops := develops_step h hFirst
      have hStay : (page.step operation).serial? = page.serial? :=
        hDevelops.serial?_eq (develops_run hStep hRest) hNumbered hSame
      have hLast := ih hStep (hDevelops.numbered hNumbered) hRest hOthers (hSame.trans hStay.symm)
      have hForeign : ∀ range, operation ≠ .showRange range := by
        rintro range rfl
        exact hOwn trivial
      rcases range_step h hFirst hForeign with rfl | ⟨hRange, -⟩ | ⟨-, hReplaces⟩
      · exact absurd trivial hOwn
      · rw [run_cons, hLast, hRange, results, List.getLast?_append, Option.or_assoc]
        cases page.resultIn operation <;> rfl
      · exact absurd hStay (hReplaces.serial?_ne hNumbered)

end Page

end RemoteTable
