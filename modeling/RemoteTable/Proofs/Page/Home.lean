import RemoteTable.Proofs.Page.Frames
import RemoteTable.Proofs.Page.Noninterference
import RemoteTable.Proofs.Page.Waiting

/-! Going home. The first table of a page is shown in a new view, which has the number to itself: replies
to what was asked for before do not reach it, even those to an earlier view of the same table. -/

namespace RemoteTable

/-- Nothing is known of the table, and nothing of it is shown. -/
structure View.IsBlank (view : View) : Prop where
  schema : view.schema = none
  startPosition : view.startPosition = none
  rowCount : view.rowCount = none
  snapshot : view.snapshot = none
  displayedRows : view.displayedRows = 0
  order : view.order = .empty
  snapshotOrder : view.snapshotOrder = .empty
  rendering : view.rendering = .empty
  cursor : view.cursor = 0

namespace Page

variable {page next : Page}

/-- The view is left for a new one of a table, whose schema is asked for in place of what the view had in
flight. -/
structure StartsOver (page next : Page) (view : View) (tableId : ObjectId) : Prop where
  view_eq : ∃ started, next.view = some started ∧ started.identity = (page.nextSerial, tableId) ∧
    started.IsBlank
  range_eq : next.range = none
  frames_eq : next.session.frames = page.session.frames ++ view.cancellations ++
    [⟨page.session.nextRequestId, tableId, "getSchema", .null⟩]

/-- The schema of a table is asked for when the former view has given up its request. -/
theorem session_showTable (page : Page) (tableId : ObjectId) :
    (page.showTable tableId).session = ((page.newView tableId).session.invoke
      (.bare tableId "getSchema") (.renderer page.nextSerial 1)).2 := rfl

/-- Showing a table starts over: a blank view, no range, and one request in place of the one in
flight. -/
theorem startsOver_showTable (hLed : page.Led) {view : View} (hView : page.view = some view)
    (tableId : ObjectId) : page.StartsOver (page.showTable tableId) view tableId where
  view_eq := ⟨_, rfl, rfl, ⟨rfl, rfl, rfl, rfl, rfl, rfl, rfl, rfl, rfl⟩⟩
  range_eq := rfl
  frames_eq := by
    rw [session_showTable, Session.frames_invoke, session_newView hView,
      (hLed.leads view hView).frames_cancelInFlight, Session.nextAttempt,
      (view.quiet_cancelInFlight page.session).nextRequestId_eq]
    rfl

section Loading

/-- Whoever waits for a table has asked for one to be loaded. -/
def Loading (page : Page) : Prop :=
  ∀ id files, page.session.Waits id files (.tableLoader none) →
    (⟨id, files, "loadTable", .null⟩ : Request) ∈ page.session.frames

theorem MayAsk.eq_loadTable {operation : Operation} {call : Call} {observer : Observer}
    (h : page.MayAsk operation call observer) (hBlank : observer.blank = .tableLoader none) :
    call = .bare call.objectId "loadTable" := by
  cases h with
  | table => rfl
  | files | schema | home | rows | range => simp [Observer.blank] at hBlank

/-- Only a request to load a table waits for one. -/
theorem MayIssue.eq_loadTable {operation : Operation} {call : Call} {observer : Observer}
    (h : page.MayIssue operation call observer) (hBlank : observer.blank = .tableLoader none) :
    call = .bare call.objectId "loadTable" := by
  rcases h with hAsks | ⟨-, loading, -, hAsks⟩
  · exact hAsks.eq_loadTable hBlank
  · exact hAsks.eq_loadTable hBlank

/-- Whoever begins to wait for a table has just asked for it, and frames are not taken back. -/
theorem loading_step (hLoading : page.Loading) (h : page.session.Balanced)
    (hOrderly : page.session.Orderly) {operation : Operation} (hOrdinary : operation.IsOrdinary) :
    (page.step operation).Loading := by
  intro id files hWaits
  rcases waits_step h hOrdinary hWaits with hOld | ⟨call, asked, hMay, hBlank, rfl, -, hSent⟩
  · obtain ⟨handed, hHands⟩ := exists_hands_step hOrderly h hOrdinary
    rw [hHands.frames_eq]
    exact List.mem_append_left _ (hLoading id files hOld)
  · rw [hMay.eq_loadTable hBlank] at hSent
    exact hSent

/-- In every run, whoever waits for a table has asked for it to be loaded. -/
theorem loading_run (accepts : Nat → Bool) {operations : List Operation}
    (hOrdinary : ∀ operation ∈ operations, operation.IsOrdinary) :
    ((opened accepts).run operations).Loading := by
  induction operations using List.reverseRecOn with
  | nil =>
      rintro id files ⟨entry, hEntry, -⟩
      exact absurd hEntry List.not_mem_nil
  | append_singleton operations operation ih =>
      have hBefore := fun other hOther => hOrdinary other (List.mem_append_left _ hOther)
      rw [run_concat]
      exact loading_step (ih hBefore) (balanced_run (.fresh accepts) operations)
        (orderly_run accepts hBefore)
        (hOrdinary operation (List.mem_append_right _ (List.mem_singleton_self _)))

end Loading

/-- The reply completes the request for a table that had been sent on the earlier page, and a view of this
table takes the place of the current one. -/
def BringsTable (page later : Page) (id : Nat) : Prop :=
  ∃ files table, (⟨id, files, "loadTable", .null⟩ : Request) ∈ page.session.frames ∧
    later.ending? = some (.tableLoader (some table)) ∧
    (later.step .handleNext).view.map View.identity = some (later.nextSerial, table)

/-- What was asked for before a view was made does not change it. -/
theorem view_handleNext_of_former (hLed : page.Led) (hLoading : page.Loading)
    {operations : List Operation} (hOrdinary : ∀ operation ∈ operations, operation.IsOrdinary)
    (hSerial : (page.run operations).serial? = some page.nextSerial) {frame : ReplyFrame}
    (hHead : (page.run operations).session.queue.head? = some frame)
    (hFormer : frame.requestId < page.session.nextRequestId) :
    ((page.run operations).step .handleNext).view = (page.run operations).view ∨
      page.BringsTable (page.run operations) frame.requestId := by
  have hBalanced : (page.run operations).session.Balanced := balanced_run hLed.balanced operations
  have hWaited : ∀ {pending : Pending},
      (page.run operations).session.pending? frame.requestId = some pending →
      page.session.Waits frame.requestId pending.objectId pending.receiver.observer.blank :=
    fun hPending => waits_run hLed.balanced hOrdinary hFormer (.of_pending? hPending)
  -- A renderer that waited before renders a view with a smaller number.
  have hOther : ∀ view, (page.run operations).view = some view → ∀ pending,
      (page.run operations).session.pending? frame.requestId = some pending →
      pending.receiver.observer ≠ .renderer view.serial view.generation := by
    intro view hView pending hPending hObserver
    have hWaits := hWaited hPending
    rw [hObserver] at hWaits
    obtain ⟨entry, hEntry, -, -, hBlank⟩ := hWaits
    have hOlder := hLed.attributed.older entry hEntry _ _ (Observer.blank_eq_renderer_iff.mp hBlank)
    rw [serial?, hView, Option.map_some, Option.some.injEq] at hSerial
    omega
  rcases view_turn_of_former hBalanced (turn_of_balanced hBalanced) hHead hOther with
    hSame | ⟨pending, table, hPending, hObserver, hEnding⟩
  · exact Or.inl hSame
  · have hWaits := hWaited hPending
    rw [hObserver] at hWaits hEnding
    have hOpens : (page.run operations).Opens ((page.run operations).step .handleNext)
        ((page.run operations).opens? .handleNext) := opens_step hBalanced trivial
    rw [opens?, hEnding] at hOpens
    exact Or.inr ⟨pending.objectId, table, hLoading _ _ hWaits, hEnding, hOpens.view⟩

/-- Home is the first table, and going home starts afresh. In every run of the operations of the user,
over any transport and with any replies, the home is the table of the first view that is made, and it does
not change any more; no two views have the same number. Whenever there is a view, going home replaces it
by a blank one of that table and asks for the schema, after the request in flight has been given up. As
long as this view is the current one, no reply to an earlier request changes it, whatever else happens,
unless the reply completes a request for another table, which takes its place. -/
theorem home_is_first_table (accepts : Nat → Bool) (operations : List Operation)
    (hOrdinary : ∀ operation ∈ operations, operation.IsOrdinary) :
    let page := (opened accepts).run operations
    let views := (opened accepts).created operations
    (page.homeId = views.head?.map View.tableId ∧
      ∀ first second home, operations = first ++ second →
        ((opened accepts).run first).homeId = some home → page.homeId = some home) ∧
    ((views.map View.serial).Nodup ∧
      page.view.map View.identity = views.getLast?.map View.identity) ∧
    ∀ view, page.view = some view → ∃ home, page.homeId = some home ∧
      page.StartsOver page.goHome view home ∧
      ∀ during : List Operation, (∀ operation ∈ during, operation.IsOrdinary) →
        let later := page.goHome.run during
        ∀ frame, later.serial? = some page.nextSerial →
          later.session.queue.head? = some frame → frame.requestId < page.session.nextRequestId →
          (later.step .handleNext).view = later.view ∨ page.BringsTable later frame.requestId := by
  intro page views
  have hLineage : page.Lineage views := lineage_run accepts hOrdinary
  obtain ⟨-, hLed⟩ := superseding_run (superseding_opened accepts) (led_opened accepts) hOrdinary
  refine ⟨⟨hLineage.home, ?_⟩, ⟨hLineage.serials ▸ List.nodup_range, hLineage.current⟩, ?_⟩
  · rintro first second home rfl hHome
    have hFirst := (lineage_run accepts fun operation hOperation =>
      hOrdinary operation (List.mem_append_left second hOperation)).home
    rw [hHome, eq_comm] at hFirst
    have hViews : views = (opened accepts).created first ++
        ((opened accepts).run first).created second := created_append _ first second
    rw [hLineage.home, hViews, List.head?_append]
    obtain ⟨made, hMade, hTable⟩ := Option.map_eq_some_iff.mp hFirst
    rw [hMade, Option.some_or, Option.map_some, hTable]
  · intro view hView
    -- The current view is the last one that has been made, so there is a first one.
    have hMade : views ≠ [] := by
      intro hNone
      have hCurrent := hLineage.current
      rw [hView, hNone] at hCurrent
      cases hCurrent
    have hHome : page.homeId = some (views.head hMade).tableId := by
      rw [hLineage.home, List.head?_eq_some_head hMade, Option.map_some]
    have hGoes : page.goHome = page.showTable (views.head hMade).tableId := by
      rw [goHome, hHome]
    refine ⟨_, hHome, hGoes ▸ startsOver_showTable hLed hView _, ?_⟩
    intro during hDuring later frame hSerial hHead hFormer
    have hSince : ∀ operation ∈ .goHome :: during, operation.IsOrdinary :=
      List.forall_mem_cons.mpr ⟨trivial, hDuring⟩
    exact view_handleNext_of_former hLed (loading_run accepts hOrdinary) hSince hSerial hHead hFormer

/-- Another table is shown when the page goes home. The columns of the first view of the home come too
late, and a table that is being loaded takes the place of the new one. -/
theorem home_is_first_table_of_late_replies :
    let known : Json := .object [("done", .int 1), ("data", .object
      [("schema", .array []), ("rowCount", .int 4)])]
    let loaded : Json := .object [("done", .int 1), ("data", .string "v")]
    let operations : List Operation := [.showTable ⟨"t"⟩, .loadTable ⟨"f"⟩, .receive ⟨1, .next known⟩,
      .showTable ⟨"u"⟩]
    let during : List Operation := [.handleNext, .handleNext, .handleNext, .receive ⟨2, .next loaded⟩,
      .receive ⟨2, .completed⟩, .handleNext]
    let page := (opened fun _ => true).run operations
    (∀ operation ∈ operations, operation.IsOrdinary) ∧
    (((opened fun _ => true).created operations).map View.identity = [(0, ⟨"t"⟩), (1, ⟨"u"⟩)] ∧
      page.homeId = ((opened fun _ => true).created operations).head?.map View.tableId) ∧
    ∃ view, page.view = some view ∧ view.cancellations = [.cancellation 3 ⟨"u"⟩] ∧
      page.StartsOver page.goHome view ⟨"t"⟩ ∧
      (page.goHome.step .handleNext).view = page.goHome.view ∧
      page.BringsTable (page.goHome.run during) 2 := by
  intro known loaded operations during page
  have hOrdinary : ∀ operation ∈ operations, operation.IsOrdinary := by
    simp [operations, Operation.IsOrdinary]
  have hDuring : ∀ operation ∈ during, operation.IsOrdinary := by
    simp [during, Operation.IsOrdinary]
  have hPage : page = (opened fun _ => true).run operations := rfl
  have hShown : page.view.map View.cancellations = some [.cancellation 3 ⟨"u"⟩] := by decide +kernel
  obtain ⟨view, hView, hCancels⟩ := Option.map_eq_some_iff.mp hShown
  obtain ⟨⟨hFirst, -⟩, -, hGoes⟩ := home_is_first_table (fun _ => true) operations hOrdinary
  rw [← hPage] at hFirst hGoes
  obtain ⟨home, hHome, hStarts, hStays⟩ := hGoes view hView
  have hTable : page.homeId = some ⟨"t"⟩ := by decide +kernel
  obtain rfl : home = ⟨"t"⟩ := Option.some.inj (hHome.symm.trans hTable)
  refine ⟨hOrdinary, ⟨by decide +kernel, hFirst⟩, view, hView, hCancels, hStarts, ?_, ?_⟩
  · have hNone : ∀ operation ∈ ([] : List Operation), operation.IsOrdinary := by simp
    refine (hStays [] hNone ⟨1, .next known⟩ (by decide +kernel) (by decide +kernel)
      (by decide +kernel)).resolve_right ?_
    rintro ⟨_, _, -, hEnding, -⟩
    have hGoesOn : page.goHome.ending? = none := by decide +kernel
    cases hGoesOn.symm.trans hEnding
  · exact (hStays during hDuring ⟨2, .completed⟩ (by decide +kernel) (by decide +kernel)
      (by decide +kernel)).resolve_left (by decide +kernel)

end Page

end RemoteTable
