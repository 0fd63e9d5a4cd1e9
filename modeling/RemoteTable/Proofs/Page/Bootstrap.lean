import RemoteTable.Proofs.Page.Frames
import RemoteTable.Proofs.Page.Identifiers
import RemoteTable.Proofs.Page.Noninterference
import RemoteTable.Proofs.Session.Decoding

/-! The way to the first table. The set of files is asked for, then a table of these files, and then
the schema of this table, each at the end of the request before it and with the last identifier that
this one has brought. -/

namespace RemoteTable

/-- Such observers collect the last identifier, in this framing. -/
structure Collects (make : Option ObjectId → Observer) (framing : Json → Option (Option ObjectId)) :
    Prop where
  decodes : ∀ found result,
    ((make found).decode result).toOption.map Prod.snd = (framing result).map Payload.objectId
  collects : ∀ found value, (make found).collect (.objectId value) = make (value.or found)

namespace Collects

/-- The search for files takes identifiers that stand by themselves. -/
theorem fileSet : Collects .fileSet bareId? where
  decodes found result := by
    have hDecode : (Observer.fileSet found).decode result = _ :=
      Expected.decode_payload Payload.objectId false _ (fun _ => []) result
    rw [hDecode, bareId?, Expected.decode]
    cases (Wire.decode result : Except Wire.DecodeError (Option ObjectId)) <;> rfl
  collects found value := by cases value <;> rfl

/-- The loading of a table takes identifiers with the fraction of the work done. -/
theorem tableLoader : Collects .tableLoader wrappedId? where
  decodes found result := by
    have hDecode : (Observer.tableLoader found).decode result = _ :=
      Expected.decode_payload Payload.objectId true _ (fun _ => []) result
    rw [hDecode, wrappedId?, Expected.decode]
    cases (Wire.decode result : Except Wire.DecodeError (Streamed (Option ObjectId))) <;> rfl
  collects found value := by cases value <;> rfl

variable {make : Option ObjectId → Observer} {framing : Json → Option (Option ObjectId)}
  (h : Collects make framing) {found : Option ObjectId}

include h

/-- The observer and the framing agree about values. -/
theorem of_decodes {result : Json} {done : Option Double} {payload : Payload}
    (hDecodes : (make found).decode result = .ok (done, payload)) :
    ∃ value, (Reply.next result).id? framing = some value ∧
      (make found).collect payload = make (value.or found) := by
  have hFraming := h.decodes found result
  rw [hDecodes] at hFraming
  obtain ⟨value, hValue, rfl⟩ := Option.map_eq_some_iff.mp hFraming.symm
  exact ⟨value, hValue, h.collects found value⟩

/-- They agree about what is none. -/
theorem of_ends {reply : Reply} (hEnds : ∀ result value, reply = .next result →
    (make found).decode result ≠ .ok value) : reply.id? framing = none := by
  cases reply with
  | next result =>
      have hFraming := h.decodes found result
      cases hDecoded : (make found).decode result with
      | ok value => exact absurd hDecoded (hEnds result value rfl)
      | error err =>
          rw [hDecoded] at hFraming
          exact Option.map_eq_none_iff.mp hFraming.symm
  | error | completed | cancelled => rfl

end Collects

namespace View

/-- A view is of one table. -/
theorem Adjusts.tableId_eq {view changed : View} (h : view.Adjusts changed) :
    changed.tableId = view.tableId := by
  cases h with
  | previous => rfl
  | next =>
      unfold selectNext
      split <;> rfl
  | again => exact tableId_update ..

end View

namespace Observer

variable (observer : Observer) (view : View)

theorem tableId_display (payload : Payload) :
    (observer.display payload view).tableId = view.tableId := by
  unfold display View.acceptSnapshot
  repeat' split
  all_goals simp

theorem tableId_conclude : (observer.conclude view).tableId = view.tableId := by
  unfold conclude View.requestFinished
  repeat' split
  all_goals rfl

theorem homeId_onCompleted {observer : Observer} (h : ¬ observer.Continues) (page : Page) :
    (observer.onCompleted page).homeId = page.homeId := by
  unfold onCompleted
  split
  · exact absurd trivial h
  · exact absurd trivial h
  · rfl
  · split <;> rfl
  all_goals rfl

end Observer

namespace Page

/-- Nothing is handed over, and the tables are the same. -/
structure Keeps (page next : Page) : Prop where
  attempts : next.session.attempts = page.session.attempts
  nextRequestId : next.session.nextRequestId = page.session.nextRequestId
  table : next.view.map View.tableId = page.view.map View.tableId
  home : next.homeId = page.homeId

/-- The request is the only one that waits. -/
def AwaitsOnly (page : Page) (id : Nat) (observer : Observer) : Prop :=
  ∃ pending, page.session.pending = [(id, pending)] ∧ pending.receiver.observer = observer

variable {page next : Page}

/-- Whoever waits is the only one. -/
theorem AwaitsOnly.eq_of_pending? {id : Nat} {observer : Observer} (h : page.AwaitsOnly id observer)
    {key : Nat} {pending : Pending} (hPending : page.session.pending? key = some pending) :
    key = id ∧ page.session.pending = [(id, pending)] ∧ pending.receiver.observer = observer := by
  obtain ⟨sole, hSole, rfl⟩ := h
  have hEntry := Session.mem_of_pending? hPending
  rw [hSole, List.mem_singleton] at hEntry
  cases hEntry
  exact ⟨rfl, hSole, rfl⟩

/-- A value is taken without any frame. -/
theorem keeps_resume {id : Nat} {pending : Pending} (done : Option Double) (payload : Payload) :
    page.Keeps (resume pending.objectId id
      (pending.receiver.accept done payload (page.popped.withdrawn id))) where
  attempts := attempts_resume ..
  nextRequestId := nextRequestId_resume ..
  table := by
    rw [view_resume, Option.map_map]
    congr 1
    funext view
    exact pending.receiver.observer.tableId_display view payload
  home := homeId_resume ..

theorem loaded_of_nil (hPending : page.session.pending = []) : page.Loaded := by
  intro entry hEntry
  rw [hPending] at hEntry
  cases hEntry

/-- Without a step on the way to the first table, nothing is handed over when a reply is handled. -/
theorem keeps_turn (h : page.session.Balanced) (hLoaded : page.Loaded) (hTurn : Turn page next) :
    page.Keeps next := by
  cases hTurn with
  | idle | unknown => exact ⟨rfl, rfl, rfl, rfl⟩
  | accepted => exact keeps_resume _ _
  | @ended frame pending error hQueue hPending hEnds =>
      have hObserver := hLoaded.not_continues hPending
      rw [finish_eq_onCompleted h hPending]
      refine ⟨?_, ?_, ?_, Observer.homeId_onCompleted hObserver _⟩
      · rw [Observer.session_onCompleted hObserver]
        rfl
      · rw [Observer.session_onCompleted hObserver]
        rfl
      · rw [Observer.view_onCompleted hObserver, Option.map_map]
        show page.view.map _ = _
        congr 1
        funext view
        exact pending.receiver.observer.tableId_conclude view

/-- What a turn does while a single request waits, which collects identifiers. -/
inductive SoleTurn (make : Option ObjectId → Observer) (framing : Json → Option (Option ObjectId))
    (id : Nat) (found : Option ObjectId) (page : Page) : Page → Prop where
  | other {next : Page}
      (hOther : ∀ frame, page.session.queue.head? = some frame → frame.requestId ≠ id)
      (hKeeps : page.Keeps next) (hAwaits : next.AwaitsOnly id (make found)) :
      SoleTurn make framing id found page next
  | value {next : Page} {reply : Reply} {value : Option ObjectId}
      (hHead : page.session.queue.head? = some ⟨id, reply⟩) (hValue : reply.id? framing = some value)
      (hKeeps : page.Keeps next) (hAwaits : next.AwaitsOnly id (make (value.or found))) :
      SoleTurn make framing id found page next
  | ended {closed : Page} {reply : Reply} (hHead : page.session.queue.head? = some ⟨id, reply⟩)
      (hEnd : reply.id? framing = none) (hKeeps : page.Keeps closed)
      (hPending : closed.session.pending = []) :
      SoleTurn make framing id found page ((make found).onCompleted closed)

/-- As long as one request waits alone, each turn is about it or about nothing. -/
theorem soleTurn_of_turn {make : Option ObjectId → Observer}
    {framing : Json → Option (Option ObjectId)} (hCollects : Collects make framing) {id : Nat}
    {found : Option ObjectId} (h : page.session.Balanced) (hAwaits : page.AwaitsOnly id (make found))
    (hTurn : Turn page next) : SoleTurn make framing id found page next := by
  cases hTurn with
  | idle hEmpty => exact .other (by simp [hEmpty]) ⟨rfl, rfl, rfl, rfl⟩ hAwaits
  | @unknown frame hQueue hUnknown =>
      -- The request waits, so a reply that nobody waits for is not one to it.
      refine .other (fun other hOther hSame => ?_) ⟨rfl, rfl, rfl, rfl⟩ hAwaits
      cases hQueue.symm.trans hOther
      obtain ⟨sole, hSole, -⟩ := hAwaits
      rw [Session.pending?_eq_none_iff, hSole, hSame] at hUnknown
      exact hUnknown (List.mem_singleton_self id)
  | @accepted key result pending done payload hQueue hPending hDecodes =>
      obtain ⟨rfl, hSole, hObserver⟩ := hAwaits.eq_of_pending? hPending
      rw [hObserver] at hDecodes
      obtain ⟨value, hValue, hCollect⟩ := hCollects.of_decodes hDecodes
      refine .value hQueue hValue (keeps_resume done payload) ⟨⟨pending.objectId, { pending.receiver with
        observer := pending.receiver.observer.collect payload }⟩, ?_, hObserver ▸ hCollect⟩
      rw [session_resume, Session.register, Receiver.pending_progressed]
      simp [withdrawn, popped, Session.unregister, hSole]
  | @ended frame pending error hQueue hPending hEnds =>
      obtain ⟨rfl, hSole, hObserver⟩ := hAwaits.eq_of_pending? hPending
      rw [finish_eq_onCompleted h hPending, hObserver]
      refine .ended hQueue (hCollects.of_ends (hObserver ▸ hEnds)) ⟨rfl, rfl, rfl, rfl⟩ ?_
      show page.session.pending.eraseP _ = []
      simp [hSole]

/-- The reply that an operation takes from the queue. -/
def handledIn (page : Page) : Operation → List ReplyFrame
  | .handleNext => page.session.queue.head?.toList
  | _ => []

/-- The replies that are taken from the queue in a run, in order. -/
def handled (page : Page) : List Operation → List ReplyFrame
  | [] => []
  | operation :: rest => page.handledIn operation ++ (page.step operation).handled rest

/-- Frames are handled in turns of the queue only. -/
theorem handledIn_of_ne {operation : Operation} (hHandling : operation ≠ .handleNext) (page : Page) :
    page.handledIn operation = [] := by
  cases operation with
  | handleNext => exact absurd rfl hHandling
  | _ => rfl

/-- Requests are given up by the user. -/
def Operation.Cancels : Operation → Prop
  | .cancel _ | .cancelAll => True
  | _ => False

/-- Without a table, the user can only give up requests and have errors reported. -/
theorem step_of_viewless (hView : page.view = none) (hHome : page.homeId = none)
    {operation : Operation} (hOrdinary : operation.IsOrdinary) (hLoads : ¬ operation.Loads)
    (hArrival : ∀ frame, operation ≠ .receive frame) (hHandling : operation ≠ .handleNext) :
    page.session.Quiet (page.step operation).session ∧
      (page.step operation).view = none ∧ (page.step operation).homeId = none ∧
      (¬ operation.Cancels → (page.step operation).session.attempts = page.session.attempts) := by
  cases operation with
  | start | loadTable | newView | showTable => exact absurd trivial hLoads
  | invoke | setView | changeView => exact hOrdinary.elim
  | receive frame => exact absurd rfl (hArrival frame)
  | handleNext => exact absurd rfl hHandling
  | goHome =>
      have hStay : page.goHome = page := by simp [goHome, hHome]
      rw [step, hStay]
      exact ⟨.refl, hView, hHome, fun _ => rfl⟩
  | noRows | showColumn | requestRange =>
      have hStay : ∀ action, page.withView action = page := fun _ => withView_of_none hView
      simp only [step, noRows, showColumn, requestRange, hStay]
      exact ⟨.refl, hView, hHome, fun _ => trivial⟩
  | showAllRows =>
      have hReport : page.showAllRows = page.reportError "No data loaded" := by
        simp [showAllRows, hView]
      rw [step, hReport]
      exact ⟨.report .refl _, hView, hHome, fun _ => rfl⟩
  | refresh =>
      have hReport : page.refresh = page.reportError "Nothing to refresh" := by
        simp [refresh, hView]
      rw [step, hReport]
      exact ⟨.report .refl _, hView, hHome, fun _ => rfl⟩
  | selectPrevious | selectNext =>
      exact ⟨.refl, by simp [step, modifyView, hView], hHome, fun _ => rfl⟩
  | showRange | closeRange => exact ⟨.refl, hView, hHome, fun _ => rfl⟩
  | cancel id => exact ⟨.cancel .refl id, hView, hHome, fun h => absurd trivial h⟩
  | cancelAll => exact ⟨Session.quiet_cancelEach _ _, hView, hHome, fun h => absurd trivial h⟩
  | reportError message => exact ⟨.report .refl message, hView, hHome, fun _ => rfl⟩

/-- The first table is shown in a view of its own, and its schema is asked for. -/
theorem showTable_of_viewless (hView : page.view = none) (hHome : page.homeId = none)
    (table : ObjectId) :
    (page.showTable table).session =
        (page.session.invoke (.bare table "getSchema") (.renderer page.nextSerial 1)).2 ∧
      (page.showTable table).view.map View.tableId = some table ∧
      (page.showTable table).homeId = some table := by
  simp [showTable, newView, setView, withView, hView, hHome, View.requestSchema, View.issue,
    View.cancelInFlight, View.new, Call.bare]

end Page

namespace Stage

open Page

/-- What waits for replies at a stage. -/
def Waits : Stage → Page → Prop
  | searching found, page => page.AwaitsOnly 1 (.fileSet found)
  | loading _ found, page => page.AwaitsOnly 2 (.tableLoader found)
  | nothingFound, page | nothingLoaded _, page | showing _ _, page => page.Loaded

/-- What a stage waits for depends on the requests alone. -/
theorem Waits.of_pending_eq {stage : Stage} {page next : Page} (h : stage.Waits page)
    (hPending : next.session.pending = page.session.pending) : stage.Waits next := by
  cases stage <;> simpa only [Waits, AwaitsOnly, Loaded, hPending] using h

/-- The page has come to a stage. Behind the requests of the stage there are only those for the table
that is shown. If the user is silent, nothing is given up before a table is shown. -/
structure At (stage : Stage) (silent : Prop) (page : Page) : Prop where
  balanced : page.session.Balanced
  orderly : page.session.Orderly
  requests : ∃ later, page.session.requests = stage.requests ++ later ∧
    (∀ request ∈ later, request.method ∉ bootstrapMethods) ∧ (stage.table = none → later = [])
  frames : silent → stage.table = none → page.session.frames = page.session.requests
  view : page.view.map View.tableId = stage.table
  home : page.homeId = stage.table
  waits : stage.Waits page

namespace At

variable {stage : Stage} {silent : Prop} {page next : Page}

/-- Until a table is shown, nothing else has been asked for. -/
theorem requests_eq (h : stage.At silent page) (hTable : stage.table = none) :
    page.session.requests = stage.requests := by
  obtain ⟨later, hRequests, -, hLater⟩ := h.requests
  rw [hRequests, hLater hTable, List.append_nil]

/-- Until a table is shown, there is no view. -/
theorem viewless (h : stage.At silent page) (hTable : stage.table = none) : page.view = none :=
  Option.map_eq_none_iff.mp (h.view.trans hTable)

/-- Nothing is handed over. -/
theorem keep (h : stage.At silent page) (hKeeps : page.Keeps next) (hBalanced : next.session.Balanced)
    (hOrderly : next.session.Orderly) {after : Stage} (hRequests : after.requests = stage.requests)
    (hTable : after.table = stage.table) (hWaits : after.Waits next) : after.At silent next where
  balanced := hBalanced
  orderly := hOrderly
  requests := by
    rw [Session.requests_of_attempts_eq hKeeps.attempts, hRequests, hTable]
    exact h.requests
  frames := by
    rw [hTable, Session.requests_of_attempts_eq hKeeps.attempts, Session.frames, hKeeps.attempts]
    exact h.frames
  view := by rw [hKeeps.table, hTable, h.view]
  home := by rw [hKeeps.home, hTable, h.home]
  waits := hWaits

theorem nextRequestId_eq (h : stage.At silent page) (hTable : stage.table = none)
    (hKeeps : page.Keeps next) : next.session.nextRequestId = stage.requests.length + 1 := by
  rw [hKeeps.nextRequestId, h.orderly.next, h.requests_eq hTable]

/-- The next request of the stage is issued. -/
theorem requests_invoke (h : stage.At silent page) (hTable : stage.table = none)
    (hKeeps : page.Keeps next) (objectId : ObjectId) {method : String}
    (hMethod : method ≠ Request.cancelMethod) (observer : Observer) :
    (next.session.invoke (.bare objectId method) observer).2.requests =
      stage.requests ++ [⟨stage.requests.length + 1, objectId, method, .null⟩] := by
  have hCall : (Call.bare objectId method).method ≠ Request.cancelMethod := hMethod
  rw [next.session.requests_invoke hCall, Session.requests_of_attempts_eq hKeeps.attempts,
    h.requests_eq hTable, ← h.nextRequestId_eq hTable hKeeps]
  rfl

theorem frames_invoke (h : stage.At silent page) (hTable : stage.table = none)
    (hKeeps : page.Keeps next) (objectId : ObjectId) {method : String}
    (hMethod : method ≠ Request.cancelMethod) (observer : Observer) (hSilent : silent) :
    (next.session.invoke (.bare objectId method) observer).2.frames =
      (next.session.invoke (.bare objectId method) observer).2.requests := by
  have hCall : (Call.bare objectId method).method ≠ Request.cancelMethod := hMethod
  rw [Session.frames_invoke, next.session.requests_invoke hCall,
    Session.requests_of_attempts_eq hKeeps.attempts, ← h.frames hSilent hTable, Session.frames,
    hKeeps.attempts, Session.frames]

/-- The search is over, and a table of the files is loaded. -/
theorem loadTable {found : Option ObjectId} (h : (searching found).At silent page)
    (hKeeps : page.Keeps next) (hPending : next.session.pending = []) (files : ObjectId)
    (hBalanced : (next.loadTable files).session.Balanced)
    (hOrderly : (next.loadTable files).session.Orderly) :
    (loading files none).At silent (next.loadTable files) where
  balanced := hBalanced
  orderly := hOrderly
  requests := by
    refine ⟨[], ?_, by simp, fun _ => rfl⟩
    exact h.requests_invoke rfl hKeeps files (by decide) (.tableLoader none)
  frames hSilent _ := h.frames_invoke rfl hKeeps files (by decide) (.tableLoader none) hSilent
  view := hKeeps.table.trans h.view
  home := hKeeps.home.trans h.home
  waits := by
    have hNumber : next.session.nextRequestId = 2 := h.nextRequestId_eq rfl hKeeps
    have hSession : (next.loadTable files).session.pending = _ :=
      next.session.pending_invoke (.bare files "loadTable") (.tableLoader none)
    rw [hPending, hNumber] at hSession
    exact ⟨_, hSession, rfl⟩

/-- The table is loaded, and it is shown. -/
theorem showTable {files : ObjectId} {found : Option ObjectId}
    (h : (loading files found).At silent page) (hKeeps : page.Keeps next)
    (hPending : next.session.pending = []) (table : ObjectId)
    (hBalanced : (next.showTable table).session.Balanced)
    (hOrderly : (next.showTable table).session.Orderly) :
    (showing files table).At silent (next.showTable table) := by
  have hView : next.view = none := Option.map_eq_none_iff.mp (hKeeps.table.trans h.view)
  obtain ⟨hSession, hTable, hHome⟩ := showTable_of_viewless hView (hKeeps.home.trans h.home) table
  refine ⟨hBalanced, hOrderly, ⟨[], ?_, by simp, fun _ => rfl⟩, by nofun, hTable, hHome, ?_⟩
  · rw [hSession, List.append_nil]
    exact h.requests_invoke rfl hKeeps table (by decide) _
  · intro entry hEntry
    rw [hSession, Session.pending_invoke, hPending, List.nil_append, List.mem_singleton] at hEntry
    subst hEntry
    exact id

/-- A stage behind which no step waits is left by no reply. -/
theorem turn_of_loaded (h : stage.At silent page) (hLoaded : page.Loaded)
    (hStays : ∀ frame, stage.hear frame = stage) (hWaits : next.Loaded → stage.Waits next)
    (hTurn : Turn page next) (hOrderly : next.session.Orderly) :
    (page.session.queue.head?.toList.foldl hear stage).At silent next := by
  rw [foldl_hear_of_stays fun frame _ => hStays frame]
  exact h.keep (keeps_turn h.balanced hLoaded hTurn) (balanced_turn h.balanced hTurn) hOrderly rfl rfl
    (hWaits (loaded_turn h.balanced hLoaded hTurn).1)

/-- A stage in which a request waits for identifiers is left when this request ends. -/
theorem turn_of_awaitsOnly {make : Option ObjectId → Observer}
    {framing : Json → Option (Option ObjectId)} (hCollects : Collects make framing) {id : Nat}
    {running behind : Option ObjectId → Stage} {found : Option ObjectId}
    (hHear : ∀ frame, (running found).hear frame =
      if frame.requestId = id then
        match frame.reply.id? framing with
        | some value => running (value.or found)
        | none => behind found
      else running found)
    (hBalanced : page.session.Balanced) (hAwaits : page.AwaitsOnly id (make found))
    (hRunning : ∀ found, page.Keeps next → next.AwaitsOnly id (make found) →
      (running found).At silent next)
    (hEnded : ∀ closed, page.Keeps closed → closed.session.pending = [] →
      next = (make found).onCompleted closed → (behind found).At silent next)
    (hTurn : Turn page next) :
    (page.session.queue.head?.toList.foldl hear (running found)).At silent next := by
  cases soleTurn_of_turn hCollects hBalanced hAwaits hTurn with
  | other hOther hKeeps hStill =>
      rw [foldl_hear_of_stays fun frame hFrame => by
        rw [hHear, if_neg (hOther frame (Option.mem_toList.mp hFrame))]]
      exact hRunning found hKeeps hStill
  | value hHead hValue hKeeps hStill =>
      rw [hHead, Option.toList_some, List.foldl_cons, List.foldl_nil, hHear, if_pos rfl, hValue]
      exact hRunning _ hKeeps hStill
  | @ended closed reply hHead hEnd hKeeps hPending =>
      rw [hHead, Option.toList_some, List.foldl_cons, List.foldl_nil, hHear, if_pos rfl, hEnd]
      exact hEnded closed hKeeps hPending rfl

/-- Each reply leads to the stage that it is heard to lead to. -/
theorem turn (h : stage.At silent page) (hTurn : Turn page next) (hOrderly : next.session.Orderly) :
    (page.session.queue.head?.toList.foldl hear stage).At silent next := by
  have hBalanced : next.session.Balanced := balanced_turn h.balanced hTurn
  cases stage with
  | nothingFound | nothingLoaded files | showing files table =>
      exact h.turn_of_loaded h.waits (fun _ => rfl) id hTurn hOrderly
  | searching found =>
      refine turn_of_awaitsOnly .fileSet (fun _ => rfl) h.balanced h.waits
        (fun _ hKeeps hStill => h.keep hKeeps hBalanced hOrderly rfl rfl hStill) ?_ hTurn
      rintro closed hKeeps hPending rfl
      cases found with
      | none => exact h.keep hKeeps hBalanced hOrderly rfl rfl (loaded_of_nil hPending)
      | some files => exact h.loadTable hKeeps hPending files hBalanced hOrderly
  | loading files found =>
      refine turn_of_awaitsOnly .tableLoader (fun _ => rfl) h.balanced h.waits
        (fun _ hKeeps hStill => h.keep hKeeps hBalanced hOrderly rfl rfl hStill) ?_ hTurn
      rintro closed hKeeps hPending rfl
      cases found with
      | none => exact h.keep hKeeps hBalanced hOrderly rfl rfl (loaded_of_nil hPending)
      | some table => exact h.showTable hKeeps hPending table hBalanced hOrderly

/-- What the user does with the first table leads to no other one. -/
theorem use {files table : ObjectId} (h : (showing files table).At silent page)
    (hMove : Move False page next) {more : List Request}
    (hRequests : next.session.requests = page.session.requests ++ more)
    (hMore : ∀ request ∈ more, request.method ∉ bootstrapMethods)
    (hView : next.view.map View.tableId = some table) (hHome : next.homeId = page.homeId)
    (hLoaded : next.Loaded) : (showing files table).At silent next where
  balanced := h.balanced.uses hMove.uses
  orderly := h.orderly.acts hMove.acts
  requests := by
    obtain ⟨later, hBefore, hLater, -⟩ := h.requests
    refine ⟨later ++ more, by rw [hRequests, hBefore, List.append_assoc], fun request hRequest => ?_,
      by nofun⟩
    exact (List.mem_append.mp hRequest).elim (hLater request) (hMore request)
  frames := by nofun
  view := hView
  home := hHome.trans h.home
  waits := hLoaded

/-- At the last stage, giving up requests leads nowhere else. -/
theorem use_quiet {files table : ObjectId} (h : (showing files table).At silent page)
    (hMove : Move False page next) (hQuiet : page.session.Quiet next.session)
    (hView : next.view.map View.tableId = some table) (hHome : next.homeId = page.homeId) :
    (showing files table).At silent next := by
  refine h.use hMove (hQuiet.requests_eq.trans (List.append_nil _).symm) (by simp) hView hHome ?_
  rw [Loaded, hQuiet.pending_eq]
  exact h.waits

/-- At the last stage, only the current table is asked for anything. -/
theorem use_issue {files table : ObjectId} (h : (showing files table).At silent page)
    (hMove : Move False page next) {quiet : Session} (hQuiet : page.session.Quiet quiet) {call : Call}
    {observer : Observer} (hIssue : next.session = (quiet.invoke call observer).2)
    (hMethod : call.method ∈ ["range", "getSchema", "getTableView"])
    (hObserver : ¬ observer.IsBootstrap) (hView : next.view.map View.tableId = some table)
    (hHome : next.homeId = page.homeId) : (showing files table).At silent next := by
  have hOther : ∀ method ∈ ["range", "getSchema", "getTableView"],
      method ≠ Request.cancelMethod ∧ method ∉ bootstrapMethods := by decide
  obtain ⟨hCancel, hBootstrap⟩ := hOther call.method hMethod
  have hRequests : next.session.requests =
      page.session.requests ++ [(quiet.nextAttempt call).frame] := by
    rw [hIssue, Session.requests_invoke _ hCancel, hQuiet.requests_eq]
  refine h.use hMove hRequests ?_ hView hHome ?_
  · intro request hRequest
    obtain rfl := List.mem_singleton.mp hRequest
    exact hBootstrap
  · intro entry hEntry
    rw [hIssue, Session.pending_invoke, hQuiet.pending_eq] at hEntry
    rcases List.mem_append.mp hEntry with hOld | hNew
    · exact h.waits entry hOld
    · obtain rfl := List.mem_singleton.mp hNew
      exact hObserver

/-- At the last stage, the user can do anything but load another table. -/
theorem move {files table : ObjectId} (h : (showing files table).At silent page)
    (hMove : Move False page next) : (showing files table).At silent next := by
  have hTable : page.view.map View.tableId = some table := h.view
  have hHome : page.homeId = some table := h.home
  have hKind := hMove
  cases hKind with
  | report message => exact h.use_quiet hMove (.report .refl message) hTable rfl
  | cancel id => exact h.use_quiet hMove (.cancel .refl id) hTable rfl
  | setRange => exact h.use_quiet hMove .refl hTable rfl
  | @adjust view changed hView hAdjusts =>
      refine h.use_quiet hMove .refl ?_ rfl
      rw [← hTable, hView]
      exact congrArg some hAdjusts.tableId_eq
  | newView tableId hFirst =>
      obtain rfl : table = tableId := by simpa [hHome] using hFirst
      refine h.use_quiet hMove (page.quiet_newView table).session rfl ?_
      rw [homeId_newView, hHome]
      rfl
  | @invoke call observer hObserver hMethod =>
      obtain ⟨hRange, hOther⟩ := hMethod.resolve_left fun hLoads => hLoads.1
      exact h.use_issue hMove .refl rfl (by simp [hRange]) hOther hTable rfl
  | @ask view hView order call hCall =>
      refine h.use_issue hMove (View.quiet_cancelInFlight { view with order := order } page.session)
        (congrArg Prod.snd (View.issue_eq ..)) ?_ id ?_ rfl
      · rcases hCall with rfl | ⟨-, rfl⟩ <;> simp [Call.of, Call.bare]
      · rw [← hTable, hView, withOutcome, View.issue_eq]
        rfl

theorem moves {files table : ObjectId} (h : (showing files table).At silent page)
    (hMoves : Moves False page next) : (showing files table).At silent next := by
  induction hMoves with
  | refl => exact h
  | tail _ hMove ih => exact ih.move hMove

/-- Without a table, nothing is handed over but cancellations. -/
theorem step_of_viewless (h : stage.At silent page) (hTable : stage.table = none)
    {operation : Operation} (hOrdinary : operation.IsOrdinary) (hLoads : ¬ operation.Loads)
    (hSilent : silent → ¬ operation.Cancels) (hArrival : ∀ frame, operation ≠ .receive frame)
    (hHandling : operation ≠ .handleNext) : stage.At silent (page.step operation) := by
  obtain ⟨hQuiet, hView, hHome, hAttempts⟩ := Page.step_of_viewless (h.viewless hTable)
    (h.home.trans hTable) hOrdinary hLoads hArrival hHandling
  have hOrderly := orderly_behind_step h.orderly h.balanced hOrdinary
  refine ⟨h.balanced.quiet hQuiet, hOrderly, ?_, fun hNow _ => ?_, ?_, hHome.trans hTable.symm,
    h.waits.of_pending_eq hQuiet.pending_eq⟩
  · rw [hQuiet.requests_eq]
    exact h.requests
  · rw [hQuiet.requests_eq, ← h.frames hNow hTable, Session.frames, hAttempts (hSilent hNow),
      Session.frames]
  · rw [hView, hTable]
    rfl

/-- Each operation leads to the stage that the frames it handles lead to. This is the step of the
induction over a run. -/
theorem step (h : stage.At silent page) {operation : Operation} (hOrdinary : operation.IsOrdinary)
    (hLoads : ¬ operation.Loads) (hSilent : silent → ¬ operation.Cancels) :
    ((page.handledIn operation).foldl hear stage).At silent (page.step operation) := by
  have hOrderly := orderly_behind_step h.orderly h.balanced hOrdinary
  rcases operation.handles_or with rfl | ⟨frame, rfl⟩ | ⟨hOther, hHandling⟩
  · exact h.turn (turn_of_balanced h.balanced) hOrderly
  · have hKeeps : page.Keeps (page.step (.receive frame)) := ⟨rfl, rfl, rfl, rfl⟩
    exact h.keep hKeeps (h.balanced.of_eq rfl rfl rfl) hOrderly rfl rfl (h.waits.of_pending_eq rfl)
  rw [handledIn_of_ne hHandling, List.foldl_nil]
  -- Without a table the user can hardly do anything, and with one nothing that leads to another.
  cases stage with
  | showing files table =>
      have hMoves : Moves operation.Loads page (page.step operation) :=
        moves_step hOrdinary hOther hHandling
      rw [eq_false hLoads] at hMoves
      exact h.moves hMoves
  | searching | nothingFound | loading | nothingLoaded =>
      exact h.step_of_viewless rfl hOrdinary hLoads hSilent hOther hHandling

/-- The stage at the end of a run is the one that the replies handled in it lead to. -/
theorem run (h : stage.At silent page) {operations : List Operation}
    (hOperations : ∀ operation ∈ operations, operation.IsOrdinary ∧ ¬ operation.Loads)
    (hSilent : silent → ∀ operation ∈ operations, ¬ operation.Cancels) :
    ((page.handled operations).foldl hear stage).At silent (page.run operations) := by
  induction operations generalizing page stage with
  | nil => exact h
  | cons operation rest ih =>
      obtain ⟨⟨hOrdinary, hLoads⟩, hRest⟩ := List.forall_mem_cons.mp hOperations
      have hFirst := h.step hOrdinary hLoads fun hNow => hSilent hNow operation List.mem_cons_self
      rw [handled, List.foldl_append]
      exact ih hFirst hRest fun hNow other hOther => hSilent hNow other (List.mem_cons_of_mem _ hOther)

/-- The way begins with the search for files. -/
theorem start (accepts : Nat → Bool) (silent : Prop) :
    (searching none).At silent ((opened accepts).step .start) where
  balanced := balanced_step (.fresh accepts) .start
  orderly := orderly_behind_step (.fresh accepts) (.fresh accepts) trivial
  requests := ⟨[], Session.requests_invoke _ (by decide) _, by simp, fun _ => rfl⟩
  frames _ _ := by
    show (Session.invoke _ (.bare rootId "prepareFiles") (.fileSet none)).2.frames =
      (Session.invoke _ (.bare rootId "prepareFiles") (.fileSet none)).2.requests
    rw [Session.frames_invoke, Session.requests_invoke _ (by decide)]
    rfl
  view := rfl
  home := rfl
  waits := ⟨_, Session.pending_invoke .., rfl⟩

end At

end Stage

namespace Page

/-- The way to the first table follows exactly the last identifiers. Over any transport, with any
replies, and whatever the user does meanwhile, a table is asked for once the request for the set of
files has ended, if it has brought identifiers, and for the last one of these. In the same way a view
is opened, and the schema is asked for, of the last table that the second request has brought before
its end. Neither is asked for again. As long as no table is shown there are no other requests, and
unless the user gives up a request no other frames. -/
theorem bootstrap_follows_lastIdentifier (accepts : Nat → Bool) (operations : List Operation)
    (hOperations : ∀ operation ∈ operations, operation.IsOrdinary ∧ ¬ operation.Loads) :
    let started := (opened accepts).step .start
    let page := started.run operations
    let frames := started.handled operations
    let files := outcome bareId? (repliesTo 1 frames)
    let table := files.bind fun _ =>
      outcome wrappedId? (repliesTo 2 (Stage.behindSearch frames))
    page.view.map View.tableId = table ∧
    (∃ later, page.session.requests = ⟨1, rootId, "prepareFiles", .null⟩ ::
        (files.toList.map (⟨2, ·, "loadTable", .null⟩) ++
          table.toList.map (⟨3, ·, "getSchema", .null⟩)) ++ later ∧
      (∀ request ∈ later, request.method ∉ bootstrapMethods) ∧ (table = none → later = [])) ∧
    ((∀ operation ∈ operations, ¬ operation.Cancels) → table = none →
      page.session.frames = page.session.requests) := by
  intro started page frames files table
  have hAt := (Stage.At.start accepts (∀ operation ∈ operations, ¬ operation.Cancels)).run hOperations id
  obtain ⟨hTable, hRequests⟩ := Stage.foldl_hear frames
  refine ⟨hAt.view.trans hTable, ?_, ?_⟩
  · obtain ⟨later, hLater, hMethods, hNone⟩ := hAt.requests
    exact ⟨later, hLater.trans (congrArg (· ++ later) hRequests), hMethods,
      fun hMissing => hNone (hTable.trans hMissing)⟩
  · exact fun hSilent hMissing => hAt.frames hSilent (hTable.trans hMissing)

/-- The search brings two identifiers and a null, and ends with a number; the table comes before the
request for it is complete. -/
theorem bootstrap_follows_lastIdentifier_of_null :
    let wrapped : Json := .object [("done", .int 1), ("data", .string "t")]
    let operations : List Operation := [.receive ⟨1, .next (.string "a")⟩,
      .receive ⟨1, .next (.string "b")⟩, .receive ⟨1, .next .null⟩, .receive ⟨1, .next (.int 7)⟩,
      .handleNext, .handleNext, .handleNext, .handleNext, .receive ⟨2, .next wrapped⟩,
      .receive ⟨2, .completed⟩, .handleNext, .handleNext]
    let page := ((opened fun _ => true).step .start).run operations
    (∀ operation ∈ operations, operation.IsOrdinary ∧ ¬ operation.Loads) ∧
    page.view.map View.tableId = some ⟨"t"⟩ ∧
    ∃ later, page.session.requests = [⟨1, rootId, "prepareFiles", .null⟩,
      ⟨2, ⟨"b"⟩, "loadTable", .null⟩, ⟨3, ⟨"t"⟩, "getSchema", .null⟩] ++ later := by
  intro wrapped operations page
  have hOperations : ∀ operation ∈ operations, operation.IsOrdinary ∧ ¬ operation.Loads := by
    simp [operations, Operation.IsOrdinary, Operation.Loads]
  have hFiles : outcome bareId? (repliesTo 1
      (((opened fun _ => true).step .start).handled operations)) = some ⟨"b"⟩ := by decide +kernel
  have hTable : outcome wrappedId? (repliesTo 2 (Stage.behindSearch
      (((opened fun _ => true).step .start).handled operations))) = some ⟨"t"⟩ := by decide +kernel
  obtain ⟨hView, ⟨later, hRequests, -⟩, -⟩ :=
    bootstrap_follows_lastIdentifier (fun _ => true) operations hOperations
  simp only [hFiles, hTable, Option.bind_some] at hView hRequests
  exact ⟨hOperations, hView, later, hRequests⟩

end Page

end RemoteTable
