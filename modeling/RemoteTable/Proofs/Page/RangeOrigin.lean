import Mathlib.Data.List.Induction
import RemoteTable.Proofs.Page.RangeShown
import RemoteTable.Proofs.Page.Refusal
import RemoteTable.Proofs.Page.Waiting

/-! Where a shown range comes from. Requests for ranges go on when their view is replaced, but what they
find is shown only over the view that has asked for it. -/

namespace RemoteTable

namespace Session

/-- The request of this number collects the range of a column for a view. -/
def Collects (session : Session) (id serial : Nat) (column : Column) : Prop :=
  ∃ entry ∈ session.pending, entry.1 = id ∧
    ∃ found, entry.2.receiver.observer = .rangeCollector serial column found

/-- A collector is known by what it was before it collected anything. -/
theorem collects_iff {session : Session} {id serial : Nat} {column : Column} :
    session.Collects id serial column ↔
      ∃ objectId, session.Waits id objectId (.rangeCollector serial column none) := by
  constructor
  · rintro ⟨entry, hEntry, hId, hFound⟩
    exact ⟨_, entry, hEntry, hId, rfl, Observer.blank_eq_rangeCollector_iff.mpr hFound⟩
  · rintro ⟨_, entry, hEntry, hId, -, hBlank⟩
    exact ⟨entry, hEntry, hId, Observer.blank_eq_rangeCollector_iff.mp hBlank⟩

end Session

namespace Page

variable {page next : Page}

theorem viewFor?_isSome_iff {serial : Nat} :
    (page.viewFor? serial).isSome ↔ page.serial? = some serial := by
  cases hView : page.view with
  | none => simp [viewFor?, serial?, hView]
  | some view => by_cases hSerial : view.serial = serial <;> simp [viewFor?, serial?, hView, hSerial]

/-- Only the user asks for ranges, and of a column of the current view. -/
theorem collects_step (h : page.session.Balanced) {operation : Operation}
    (hOrdinary : operation.IsOrdinary) {id serial : Nat} {column : Column}
    (hCollects : (page.step operation).session.Collects id serial column) :
    page.session.Collects id serial column ∨ ∃ name view, operation = .requestRange name ∧
      page.view = some view ∧ view.serial = serial ∧ view.findColumn? name = some column ∧
      page.session.nextRequestId = id := by
  rw [Session.collects_iff] at hCollects ⊢
  obtain ⟨objectId, hWaits⟩ := hCollects
  rcases waits_step h hOrdinary hWaits with hOld | ⟨call, asked, hMay, hBlank, -, hNext, -⟩
  · exact Or.inl ⟨objectId, hOld⟩
  · obtain ⟨found, rfl⟩ := Observer.blank_eq_rangeCollector_iff.mp hBlank
    rcases hMay with hAsks | ⟨-, loading, hLoads, hAsks⟩
    · cases hAsks with
      | @range name view hView column hColumn => exact Or.inr ⟨name, view, rfl, hView, rfl, hColumn, hNext⟩
    · -- No reply that is handled leads to a request for a range.
      cases hAsks
      exact hLoads.elim

/-- In a run, the view of this number has asked for the range of one of its columns, by the request of
this number. -/
def AskedRange (start : Page) (operations : List Operation) (id serial : Nat) (column : Column) :
    Prop :=
  ∃ before name after view, operations = before ++ .requestRange name :: after ∧
    (start.run before).view = some view ∧ view.serial = serial ∧
    view.findColumn? name = some column ∧ (start.run before).session.nextRequestId = id

/-- Whatever has been asked for in a run has been asked for in each longer run. -/
theorem AskedRange.concat {start : Page} {operations : List Operation} {id serial : Nat}
    {column : Column} (h : start.AskedRange operations id serial column) (operation : Operation) :
    start.AskedRange (operations ++ [operation]) id serial column := by
  obtain ⟨before, name, after, view, rfl, hAsked⟩ := h
  exact ⟨before, name, after ++ [operation], view, by simp, hAsked⟩

/-- As long as the request waits, its observer has collected the last statistics that it has been
told. -/
theorem AskedRange.observer_eq {accepts : Nat → Bool} {operations : List Operation}
    {id serial : Nat} {column : Column}
    (h : (opened accepts).AskedRange operations id serial column) {pending : Pending}
    (hPending : ((opened accepts).run operations).session.pending? id = some pending) :
    pending.receiver.observer = .rangeCollector serial column
      (lastStatistics (((opened accepts).run operations).journalOf id)) := by
  obtain ⟨before, name, after, view, rfl, hView, rfl, hColumn, rfl⟩ := h
  exact observer_of_asksRange (asksRange_requestRange hView hColumn) hPending

/-- The request has ended, and these are the last statistics that its observer has been told. -/
structure Collected (page : Page) (id : Nat) (statistics : ColumnStatistics) : Prop where
  ended : ∃ receiver, page.Follows id receiver ∧ receiver.finished = true
  last : lastStatistics (page.journalOf id) = some statistics

/-- What has been collected at the end of a request is final. -/
theorem Collected.step {id : Nat} {statistics : ColumnStatistics} (h : page.Collected id statistics)
    (hBalanced : page.session.Balanced) (operation : Operation) :
    (page.step operation).Collected id statistics := by
  obtain ⟨⟨receiver, hFollows, hFinished⟩, hLast⟩ := h
  obtain ⟨hNext, hTold⟩ := follows_step hBalanced hFollows operation
  rw [Receiver.after_of_finished hFinished] at hNext
  rw [Receiver.said_of_finished hFinished, List.append_nil] at hTold
  exact ⟨⟨receiver, hNext, hFinished⟩, by rw [hTold, hLast]⟩

/-- The end of a request is no statistics. -/
theorem lastStatistics_completed (told : List Observation) :
    lastStatistics (told ++ [.completed]) = lastStatistics told := by
  simp [lastStatistics, Observation.statistics?]

theorem follows_of_pending (h : page.session.Balanced) {id : Nat} {pending : Pending}
    (hPending : page.session.pending? id = some pending) : page.Follows id pending.receiver := by
  obtain ⟨hActive, hOwn⟩ := h.waiting hPending
  refine ⟨h.below _ (Session.mem_of_pending? hPending), hOwn, fun _ => ⟨pending.objectId, hPending⟩, ?_⟩
  intro hFinished
  rw [hActive] at hFinished
  cases hFinished

/-- What is known of the ranges of a page: who has asked for those that are collected, and that the one
that is shown is what the current view has asked for. -/
structure Sourced (asked : Nat → Nat → Column → Prop) (page : Page) : Prop where
  collecting : ∀ id serial column, page.session.Collects id serial column → asked id serial column
  shown : ∀ range, page.range = some range → ∃ id serial, page.serial? = some serial ∧
    asked id serial range.column ∧ page.Collected id range.statistics

section Sourced

variable {asked : Nat → Nat → Column → Prop} (hKnown : page.Sourced asked)
  (h : page.session.Balanced)
  (hFound : ∀ id serial column, asked id serial column → ∀ pending,
    page.session.pending? id = some pending → pending.receiver.observer =
      .rangeCollector serial column (lastStatistics (page.journalOf id)))

include hKnown h hFound

/-- A range that comes is what a request of the current view has collected, and the request has
ended. -/
theorem collected_of_result? {range : Range} (hResult : page.result? = some range) :
    ∃ id serial, page.serial? = some serial ∧ asked id serial range.column ∧
      (page.step .handleNext).Collected id range.statistics := by
  unfold result? at hResult
  split at hResult
  · cases hResult
  rename_i frame hQueue
  split at hResult
  · cases hResult
  rename_i pending hPending
  split at hResult
  case isFalse => cases hResult
  rename_i hFinished
  unfold Observer.result? at hResult
  split at hResult
  case h_2 => cases hResult
  rename_i serial column statistics hObserver
  split at hResult
  case isFalse => cases hResult
  rename_i hView
  obtain rfl := Option.some.inj hResult
  have hAsked : asked frame.requestId serial column :=
    hKnown.collecting _ _ _ ⟨_, Session.mem_of_pending? hPending, rfl, _, hObserver⟩
  have hLast : lastStatistics (page.journalOf frame.requestId) = some statistics := by
    have hSame := (hFound _ _ _ hAsked _ hPending).symm.trans hObserver
    exact (Observer.rangeCollector.inj hSame).2.2
  have hTold : (pending.receiver.react frame.reply).2 = [.completed] := by
    have hActive := (h.waiting hPending).1
    rcases pending.receiver.decodes_or_ends frame.reply with
      ⟨result, done, payload, hNext, hDecodes⟩ | hEnds
    · rw [hNext, Receiver.react_of_decodes hActive hDecodes, hActive] at hFinished
      cases hFinished
    · rw [Receiver.react_of_ends hActive hEnds]
  obtain ⟨hFollows, hJournal⟩ :=
    follows_turn h (turn_of_balanced h) (follows_of_pending h hPending) hQueue
  refine ⟨frame.requestId, serial, viewFor?_isSome_iff.mp hView, hAsked, ⟨_, hFollows, hFinished⟩, ?_⟩
  rw [hJournal, hTold, lastStatistics_completed, hLast]

/-- A range that is shown has been shown before over the same view, or it has come now. -/
theorem shown_step {operation : Operation} (hOrdinary : operation.IsOrdinary)
    (hForeign : ∀ range, operation ≠ .showRange range) {range : Range}
    (hRange : (page.step operation).range = some range) :
    ∃ id serial, (page.step operation).serial? = some serial ∧ asked id serial range.column ∧
      (page.step operation).Collected id range.statistics := by
  rcases range_step h hOrdinary hForeign with rfl | ⟨hStep, hSerial⟩ | ⟨-, hClosed, -⟩
  · cases hRange
  · rw [(develops_step h hOrdinary).serial?_of_nextSerial hSerial]
    rw [hStep, Option.or_eq_some_iff] at hRange
    rcases hRange with hCame | ⟨-, hStill⟩
    · cases operation with
      | handleNext => exact collected_of_result? hKnown h hFound hCame
      | _ => cases hCame
    · obtain ⟨id, serial, hView, hAsked, hCollected⟩ := hKnown.shown range hStill
      exact ⟨id, serial, hView, hAsked, hCollected.step h operation⟩
  · rw [hClosed] at hRange
    cases hRange

end Sourced

/-- In every run in which only the page shows ranges, the one that is shown was asked for by the
current view, and it has the last statistics of that request. -/
theorem sourced_run (accepts : Nat → Bool) {operations : List Operation}
    (hOrdinary : ∀ operation ∈ operations, operation.IsOrdinary)
    (hForeign : ∀ range, .showRange range ∉ operations) :
    ((opened accepts).run operations).Sourced ((opened accepts).AskedRange operations) := by
  induction operations using List.reverseRecOn with
  | nil =>
      refine ⟨?_, ?_⟩
      · rintro id serial column ⟨entry, hEntry, -⟩
        exact absurd hEntry List.not_mem_nil
      · rintro range ⟨⟩
  | append_singleton operations operation ih =>
      have hKnown := ih (fun other hOther => hOrdinary other (List.mem_append_left _ hOther))
        fun range hRange => hForeign range (List.mem_append_left _ hRange)
      have hLast : operation ∈ operations ++ [operation] :=
        List.mem_append_right _ (List.mem_singleton_self _)
      have hBalanced : ((opened accepts).run operations).session.Balanced :=
        balanced_run (.fresh accepts) operations
      rw [run_concat]
      refine ⟨fun id serial column hCollects => ?_, fun range hRange => ?_⟩
      · rcases collects_step hBalanced (hOrdinary operation hLast) hCollects with
          hOld | ⟨name, view, rfl, hAsked⟩
        · exact (hKnown.collecting id serial column hOld).concat operation
        · exact ⟨operations, name, [], view, rfl, hAsked⟩
      · obtain ⟨id, serial, hView, hAsked, hCollected⟩ := shown_step hKnown hBalanced
          (fun _ _ _ hAsked _ hPending => hAsked.observer_eq hPending) (hOrdinary operation hLast)
          (fun range hSame => hForeign range (hSame ▸ hLast)) hRange
        exact ⟨id, serial, hView, hAsked.concat operation, hCollected⟩

/-- The end of a request for a range shows nothing over another view than the one that has asked. -/
theorem range_turn_of_stale (h : page.session.Balanced) (hTurn : Turn page next) {id serial : Nat}
    {column : Column} {reply : Reply} (hHead : page.session.queue.head? = some ⟨id, reply⟩)
    (hObserver : ∀ pending, page.session.pending? id = some pending →
      ∃ found, pending.receiver.observer = .rangeCollector serial column found)
    (hStale : page.serial? ≠ some serial) : next.range = page.range := by
  cases hTurn with
  | idle | unknown => rfl
  | accepted => exact range_resume _ _ _ _ _ _
  | @ended frame pending error hQueue hPending hEnds =>
      cases hHead.symm.trans hQueue
      obtain ⟨found, hFound⟩ := hObserver pending hPending
      rw [finish_eq_onCompleted h hPending, hFound, Observer.range_onCompleted, if_neg]
      · rfl
      · exact fun hView => hStale (viewFor?_isSome_iff.mp hView)

/-- A shown range belongs to the shown table. In every run of the operations of the user, over any
transport and with any replies in any order, a range that is shown is that of a column of the current
view. This very view has asked for it and has been the current one ever since, the request has ended,
and the range shows the last statistics that it has brought. A reply to a request for a range of which
the view has been replaced, by whatever table, leaves what is shown as it is. -/
theorem shown_range_belongs_to_view (accepts : Nat → Bool) (operations : List Operation)
    (hOrdinary : ∀ operation ∈ operations, operation.IsOrdinary)
    (hForeign : ∀ range, .showRange range ∉ operations) :
    let page := (opened accepts).run operations
    (∀ range, page.range = some range → ∃ view schema before name after asker,
      page.view = some view ∧ view.schema = some schema ∧ range.column ∈ schema.columns ∧
      operations = before ++ .requestRange name :: after ∧
      ((opened accepts).run before).view = some asker ∧ asker.serial = view.serial ∧
      asker.findColumn? name = some range.column ∧
      (∀ middle rest, after = middle ++ rest →
        ((opened accepts).run (before ++ .requestRange name :: middle)).serial? =
          some view.serial) ∧
      let id := ((opened accepts).run before).session.nextRequestId
      page.Finished id ∧ lastStatistics (page.journalOf id) = some range.statistics) ∧
    ∀ id serial column reply, (opened accepts).AskedRange operations id serial column →
      page.serial? ≠ some serial → page.session.queue.head? = some ⟨id, reply⟩ →
      (page.step .handleNext).range = page.range := by
  intro page
  have hKnown := sourced_run accepts hOrdinary hForeign
  have hBalanced : page.session.Balanced := balanced_run (.fresh accepts) operations
  refine ⟨fun range hRange => ?_, fun id serial column reply hAsked hStale hHead => ?_⟩
  · obtain ⟨_, _, hSerial, ⟨before, name, after, asker, rfl, hAsker, rfl, hColumn, rfl⟩,
      ⟨receiver, hFollows, hEnded⟩, hLast⟩ := hKnown.shown range hRange
    obtain ⟨view, hView, hSame⟩ := Option.map_eq_some_iff.mp hSerial
    obtain ⟨schema, hSchema, hFound⟩ := Option.bind_eq_some_iff.mp hColumn
    have hStart : (opened accepts).session.Balanced := .fresh accepts
    have hFirst : 1 ≤ ((opened accepts).run before).session.nextRequestId :=
      nextRequestId_le_run hStart before
    have hBefore : ((opened accepts).run before).Numbered :=
      numbered_run accepts fun operation hOperation =>
        hOrdinary operation (List.mem_append_left _ hOperation)
    have hBecomes : asker.Becomes view :=
      (develops_opened_run hOrdinary).becomes hBefore hAsker hView hSame
    refine ⟨view, schema, before, name, after, asker, hView, hBecomes.schema schema hSchema,
      List.mem_of_find?_eq_some hFound, rfl, hAsker, hSame.symm, hColumn, ?_,
      finished_of_none hFirst hFollows.issued (hFollows.gone hEnded), hLast⟩
    rintro middle rest rfl
    have hThen : ((opened accepts).run before).serial? = some view.serial := by
      rw [serial?, hAsker, Option.map_some, hSame]
    rw [← hThen]
    refine serial?_between hOrdinary ?_
    rw [hThen, hSame]
    exact hSerial
  · exact range_turn_of_stale hBalanced (turn_of_balanced hBalanced) hHead
      (fun pending hPending => ⟨_, hAsked.observer_eq hPending⟩) hStale

/-- The user asks for a range, goes home to the same table and asks for the range again. The second
request ends first. -/
theorem shown_range_belongs_to_second_view :
    let column : Column := ⟨.integer, "A", false⟩
    let known : Json := .object [("done", .int 1), ("data", .object [("schema", .array [.object
      [("kind", .string "Integer"), ("name", .string "A"), ("allowMissing", .bool false)]]),
      ("rowCount", .int 4)])]
    let found (count : Int) : Json := .object [("done", .int 1), ("data", .object
      [("presentCount", .int count)])]
    let before : List Operation := [.showTable ⟨"t"⟩, .receive ⟨1, .next known⟩, .handleNext]
    let after : List Operation := [.goHome, .receive ⟨3, .next known⟩, .handleNext, .handleNext,
      .requestRange "A", .receive ⟨4, .next (found 5)⟩, .receive ⟨4, .completed⟩,
      .receive ⟨2, .next (found 7)⟩, .receive ⟨2, .completed⟩, .handleNext, .handleNext, .handleNext]
    let operations := before ++ .requestRange "A" :: after
    let page := (opened fun _ => true).run operations
    (∀ operation ∈ operations, operation.IsOrdinary) ∧ (∀ range, .showRange range ∉ operations) ∧
      (∃ range view id, page.range = some range ∧ page.view = some view ∧ page.Finished id ∧
        lastStatistics (page.journalOf id) = some range.statistics) ∧
      (opened fun _ => true).AskedRange operations 2 0 column ∧ page.serial? ≠ some 0 ∧
      page.session.queue.head? = some ⟨2, .completed⟩ ∧
      (page.step .handleNext).range = page.range := by
  intro column known found before after operations page
  have hOrdinary : ∀ operation ∈ operations, operation.IsOrdinary := by
    simp [operations, before, after, Operation.IsOrdinary]
  have hForeign : ∀ range, .showRange range ∉ operations := by
    simp [operations, before, after]
  have hKnown : ((opened fun _ => true).run before).view.map
      (fun view => (view.serial, view.findColumn? "A")) = some (0, some column) := by
    decide +kernel
  obtain ⟨asker, hAsker, hSame⟩ := Option.map_eq_some_iff.mp hKnown
  obtain ⟨hSerial, hColumn⟩ := Prod.mk.inj hSame
  have hAsked : (opened fun _ => true).AskedRange operations 2 0 column :=
    ⟨before, "A", after, asker, rfl, hAsker, hSerial, hColumn, by decide +kernel⟩
  have hStale : page.serial? ≠ some 0 := by decide +kernel
  have hHead : page.session.queue.head? = some ⟨2, .completed⟩ := by decide +kernel
  have hSome : page.range.isSome := by decide +kernel
  obtain ⟨range, hRange⟩ := Option.isSome_iff_exists.mp hSome
  obtain ⟨hShown, hDropped⟩ :=
    shown_range_belongs_to_view (fun _ => true) operations hOrdinary hForeign
  -- The page has to be named, or else it is run to compare the queues.
  have hPage : page = (opened fun _ => true).run operations := rfl
  rw [← hPage] at hDropped
  obtain ⟨view, _, _, _, _, _, hView, _, _, _, _, _, _, _, hFinished, hLast⟩ := hShown range hRange
  exact ⟨hOrdinary, hForeign, ⟨range, view, _, hRange, hView, hFinished, hLast⟩, hAsked, hStale, hHead,
    hDropped 2 0 column .completed hAsked hStale hHead⟩

end Page

end RemoteTable
