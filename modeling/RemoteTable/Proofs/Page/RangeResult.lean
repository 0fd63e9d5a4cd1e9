import RemoteTable.Proofs.Page.Demultiplexing
import RemoteTable.Proofs.Session.Replies

/-! The end of a request for the range of a column. Whatever ends it, a cancellation included, the
last statistics that have come are shown over the view that asked for them. -/

namespace RemoteTable

/-- Statistics among what an observer is told. -/
def Observation.statistics? : Observation → Option ColumnStatistics
  | .next (.statistics value) => some value
  | _ => none

/-- The last statistics that an observer has been told. -/
def lastStatistics (told : List Observation) : Option ColumnStatistics :=
  (told.filterMap Observation.statistics?).getLast?

theorem lastStatistics_cons (first : Observation) (rest : List Observation) :
    lastStatistics (first :: rest) = (lastStatistics rest).or first.statistics? := by
  unfold lastStatistics
  cases hFirst : first.statistics? with
  | none => rw [List.filterMap_cons_none hFirst, Option.or_none]
  | some value =>
      rw [List.filterMap_cons_some hFirst, List.getLast?_cons]
      cases (rest.filterMap Observation.statistics?).getLast? <;> rfl

namespace Observer

/-- The observer of a request for the range of a column keeps the last statistics. -/
theorem collect_rangeCollector (serial : Nat) (column : Column) (found : Option ColumnStatistics)
    (payload : Payload) :
    (rangeCollector serial column found).collect payload =
      rangeCollector serial column ((Observation.statistics? (.next payload)).or found) := by
  cases payload <;> rfl

/-- A collector shows what it has found if its view is still the current one. -/
theorem range_onCompleted (serial : Nat) (column : Column) (found : Option ColumnStatistics)
    (page : Page) :
    ((rangeCollector serial column found).onCompleted page).range =
      if (page.viewFor? serial).isSome then (found.map (Range.mk column)).or page.range
      else page.range := by
  cases found with
  | none => exact (ite_self _).symm
  | some value =>
      simp only [onCompleted]
      split <;> rfl

end Observer

namespace Receiver

/-- What the observer has found is the last that it has been told. -/
theorem observer_after_rangeCollector {receiver : Receiver} {serial : Nat} {column : Column}
    {found : Option ColumnStatistics} (hObserver : receiver.observer =
      .rangeCollector serial column found) (replies : List Reply) :
    (receiver.after replies).observer =
      .rangeCollector serial column ((lastStatistics (receiver.said replies)).or found) := by
  induction replies generalizing receiver found with
  | nil => exact hObserver
  | cons reply rest ih =>
      rw [after_cons, said]
      cases hActive : receiver.finished with
      | true =>
          rw [react_of_finished hActive]
          exact ih hObserver
      | false =>
          rcases receiver.decodes_or_ends reply with ⟨result, done, payload, rfl, hDecodes⟩ | hEnds
          · have hCollected := hObserver ▸ Observer.collect_rangeCollector serial column found payload
            rw [react_of_decodes hActive hDecodes, List.singleton_append, lastStatistics_cons,
              Option.or_assoc]
            exact ih hCollected
          · have hEnd : Observation.statistics? .completed = none := rfl
            rw [react_of_ends hActive hEnds, List.singleton_append, lastStatistics_cons, hEnd,
              Option.or_none]
            exact ih hObserver

end Receiver

namespace Page

/-- The operation issues a new request of this number for the range of a column. -/
def AsksRange (page : Page) (operation : Operation) (id serial : Nat) (column : Column) : Prop :=
  page.session.nextRequestId ≤ id ∧ ∃ receiver, page.Issues operation id receiver ∧
    receiver.observer = .rangeCollector serial column none

/-- The user asks for the range of a column of the current view. -/
theorem asksRange_requestRange {page : Page} {view : View} (hView : page.view = some view)
    {name : String} {column : Column} (hColumn : view.findColumn? name = some column) :
    page.AsksRange (.requestRange name) page.session.nextRequestId view.serial column := by
  refine ⟨Nat.le_refl _, _, ⟨page.session, .of view.tableId "range" name,
    .rangeCollector view.serial column none, rfl, ?_, rfl⟩, rfl⟩
  simp only [step, requestRange, withView, hView, View.requestRange, hColumn]

/-- A terminal reply to a request for a range shows what has been found. -/
theorem range_turn_of_terminal {page next : Page} (h : page.session.Balanced)
    (hTurn : Turn page next) {id serial : Nat} {column : Column} {found : Option ColumnStatistics}
    {pending : Pending} {reply : Reply} (hPending : page.session.pending? id = some pending)
    (hObserver : pending.receiver.observer = .rangeCollector serial column found)
    (hHead : page.session.queue.head? = some ⟨id, reply⟩) (hTerminal : reply.IsTerminal) :
    next.range =
      if (page.viewFor? serial).isSome then (found.map (Range.mk column)).or page.range
      else page.range := by
  cases hTurn with
  | idle hEmpty => simp [hEmpty] at hHead
  | unknown hQueue hUnknown =>
      cases hHead.symm.trans hQueue
      cases hUnknown.symm.trans hPending
  | accepted hQueue _ _ =>
      cases hHead.symm.trans hQueue
      exact hTerminal.elim
  | @ended frame other error hQueue hFound hEnds =>
      cases hHead.symm.trans hQueue
      cases hPending.symm.trans hFound
      rw [finish_eq_onCompleted h hFound, hObserver, Observer.range_onCompleted]
      rfl

/-- What a request for a range has found so far is the last that its observer has been told. -/
theorem observer_of_asksRange {accepts : Nat → Bool} {before after : List Operation}
    {operation : Operation} {id serial : Nat} {column : Column}
    (hAsks : ((opened accepts).run before).AsksRange operation id serial column) {pending : Pending}
    (hPending : ((opened accepts).run (before ++ operation :: after)).session.pending? id =
      some pending) :
    pending.receiver.observer = .rangeCollector serial column (lastStatistics
      (((opened accepts).run (before ++ operation :: after)).journalOf id)) := by
  obtain ⟨hNew, receiver, hIssues, hObserver⟩ := hAsks
  have hStart : (opened accepts).session.Balanced := .fresh accepts
  have hPrior := balanced_run hStart before
  obtain ⟨hFollows, hTold⟩ := follows_run (balanced_step hPrior operation)
    (follows_of_issues hPrior hIssues) after
  have hSilent := journalOf_step_of_lt hPrior
    (journal_run hStart before fun entry hEntry => absurd hEntry List.not_mem_nil) operation hNew
  rw [hSilent, List.nil_append] at hTold
  rw [run_append, run_cons] at hPending ⊢
  -- The receiver in the table is the one that was issued, after the replies it has had.
  obtain ⟨-, hReceiver⟩ := hFollows.receiver_eq hPending
  rw [hReceiver, hTold, Receiver.observer_after_rangeCollector hObserver, Option.or_none]

/-- The end of a request for a range shows the range, whatever ends it. In every run of a page, over
any transport and with any replies, when a terminal reply to such a request is handled, a
cancellation as well as a completion or an error, the last statistics that its observer has been told
are shown as long as the view that asked for them is the current one. If there are none, or if
another view has taken its place, what is shown stays. -/
theorem range_of_ended_request (accepts : Nat → Bool) (before after : List Operation)
    (operation : Operation) (id serial : Nat) (column : Column) (reply : Reply)
    (hAsks : ((opened accepts).run before).AsksRange operation id serial column)
    (hTerminal : reply.IsTerminal) :
    let page := (opened accepts).run (before ++ operation :: after)
    (page.session.pending? id).isSome → page.session.queue.head? = some ⟨id, reply⟩ →
      (page.step .handleNext).range =
        if (page.viewFor? serial).isSome then
          ((lastStatistics (page.journalOf id)).map (Range.mk column)).or page.range
        else page.range := by
  intro page hWaits hHead
  have hBalanced : page.session.Balanced := balanced_run (.fresh accepts) _
  obtain ⟨pending, hPending⟩ := Option.isSome_iff_exists.mp hWaits
  have hFound : pending.receiver.observer =
      .rangeCollector serial column (lastStatistics (page.journalOf id)) :=
    observer_of_asksRange hAsks hPending
  exact range_turn_of_terminal hBalanced (turn_of_balanced hBalanced) hPending hFound hHead hTerminal

/-- A range is asked for, and given up after its statistics have come twice. -/
theorem range_of_request_given_up :
    let column : Column := ⟨.integer, "A", false⟩
    let known : Json := .object [("done", .int 1), ("data", .object [("schema", .array [.object
      [("kind", .string "Integer"), ("name", .string "A"), ("allowMissing", .bool false)]]),
      ("rowCount", .int 4)])]
    let found (count : Int) : Json := .object [("done", .int 1), ("data", .object
      [("presentCount", .int count)])]
    let before : List Operation := [.showTable ⟨"t"⟩, .receive ⟨1, .next known⟩, .handleNext]
    let after : List Operation := [.receive ⟨2, .next (found 3)⟩, .receive ⟨2, .next (found 4)⟩,
      .handleNext, .handleNext, .cancel 2]
    let page := (opened fun _ => true).run (before ++ .requestRange "A" :: after)
    ((opened fun _ => true).run before).AsksRange (.requestRange "A") 2 0 column ∧
      Reply.cancelled.IsTerminal ∧ (page.session.pending? 2).isSome ∧
      page.session.queue.head? = some ⟨2, .cancelled⟩ ∧
      (page.step .handleNext).range =
        if (page.viewFor? 0).isSome then
          ((lastStatistics (page.journalOf 2)).map (Range.mk column)).or page.range
        else page.range := by
  intro column known found before after page
  have hKnown : ((opened fun _ => true).run before).view.map
      (fun view => (view.findColumn? "A", view.serial)) = some (some column, 0) := by
    decide +kernel
  obtain ⟨view, hView, hSame⟩ := Option.map_eq_some_iff.mp hKnown
  obtain ⟨hColumn, hSerial⟩ := Prod.mk.inj hSame
  have hId : ((opened fun _ => true).run before).session.nextRequestId = 2 := by decide +kernel
  have hAsks := asksRange_requestRange hView hColumn
  rw [hSerial, hId] at hAsks
  have hWaits : (page.session.pending? 2).isSome := by decide +kernel
  have hHead : page.session.queue.head? = some ⟨2, .cancelled⟩ := by decide +kernel
  exact ⟨hAsks, trivial, hWaits, hHead,
    range_of_ended_request _ before after _ 2 0 column .cancelled hAsks trivial hWaits hHead⟩

/-- The cancellation of a request can show a range: here it is handled after statistics have come. -/
theorem range_shown_by_cancellation :
    let known : Json := .object [("done", .int 1), ("data", .object [("schema", .array [.object
      [("kind", .string "Integer"), ("name", .string "A"), ("allowMissing", .bool false)]]),
      ("rowCount", .int 4)])]
    let found : Json := .object [("done", .int 1), ("data", .object [("presentCount", .int 3)])]
    let page := (opened fun _ => true).run [.showTable ⟨"t"⟩, .receive ⟨1, .next known⟩,
      .handleNext, .requestRange "A", .receive ⟨2, .next found⟩, .handleNext, .cancel 2]
    page.session.queue.head? = some ⟨2, .cancelled⟩ ∧ page.range = none ∧
      (page.step .handleNext).range.isSome := by
  decide +kernel

end Page

end RemoteTable
