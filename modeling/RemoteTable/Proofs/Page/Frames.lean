import RemoteTable.Proofs.Page.Superseding
import RemoteTable.Proofs.Session.Frames

/-! What a page says to its server. All frames come from a few acts on the session, and a view that asks
for rows once more gives up the request in flight right before. -/

namespace RemoteTable

theorem View.acts_cancelInFlight (view : View) (session : Session) :
    session.Acts (view.cancelInFlight session).2 := by
  unfold cancelInFlight
  split
  · exact .refl
  · exact .single (.cancel _)

/-- Views ask for rows by two methods only. -/
theorem View.AsksFor.isRowMethod {view : View} {order : SortOrder} {call : Call}
    (h : view.AsksFor order call) : IsRowMethod call.method := by
  rcases h with rfl | ⟨-, rfl⟩
  · exact Or.inr rfl
  · exact Or.inl rfl

namespace View

/-- What gives up the request in flight. -/
def cancellations (view : View) : List Request :=
  view.inFlight.toList.map fun handle => .cancellation handle.requestId handle.objectId

namespace Leads

variable {session : Session} {view : View}

/-- A view that is led gives up the request in flight by one frame. -/
theorem frames_cancelInFlight (h : view.Leads session) :
    (view.cancelInFlight session).2.frames = session.frames ++ view.cancellations := by
  unfold cancelInFlight cancellations
  cases hInFlight : view.inFlight with
  | none => exact (List.append_nil _).symm
  | some handle =>
      obtain ⟨receiver, hPending, -⟩ := (h handle).mp hInFlight
      exact Session.frames_cancel hPending

/-- A request for rows comes right behind what gives up the request in flight. -/
theorem frames_issue (h : view.Leads session) (call : Call) :
    (view.issue call session).2.frames = session.frames ++ view.cancellations ++
      [⟨session.nextRequestId, call.objectId, call.method, call.arguments⟩] := by
  rw [issue_eq]
  dsimp only
  rw [Session.frames_invoke, h.frames_cancelInFlight, Session.nextAttempt,
    (view.quiet_cancelInFlight session).nextRequestId_eq]

end Leads

end View

namespace Session

/-- The second request, which asks for rows, was handed over right behind the cancellation of the
first one. -/
def Replaced (session : Session) (first second : RequestHandle) : Prop :=
  ∃ earlier later method arguments,
    session.frames = earlier ++ .cancellation first.requestId first.objectId ::
      ⟨second.requestId, second.objectId, method, arguments⟩ :: later ∧
    IsRowMethod method

/-- Of two successive requests for the rows of a view that both wait, the second one has replaced the
first one. -/
def Succeeding (session : Session) : Prop :=
  ∀ first second serial generation, session.Awaits first serial generation →
    session.Awaits second serial (generation + 1) → session.Replaced first second

variable {session other : Session}

/-- Frames that follow do not come between a request and the cancellation in front of it. -/
theorem Replaced.mono {first second : RequestHandle} (h : session.Replaced first second)
    (hFrames : session.frames <+: other.frames) : other.Replaced first second := by
  obtain ⟨earlier, later, method, arguments, hSplit, hMethod⟩ := h
  obtain ⟨more, hMore⟩ := hFrames
  refine ⟨earlier, later ++ more, method, arguments, ?_, hMethod⟩
  rw [← hMore, hSplit, List.append_assoc]
  rfl

/-- With fewer requests that wait and further frames, the successions stay. -/
theorem Succeeding.mono (h : session.Succeeding)
    (hAwaits : ∀ handle serial generation, other.Awaits handle serial generation →
      session.Awaits handle serial generation)
    (hFrames : session.frames <+: other.frames) : other.Succeeding :=
  fun first second serial generation hFirst hSecond =>
    (h first second serial generation (hAwaits _ _ _ hFirst) (hAwaits _ _ _ hSecond)).mono hFrames

/-- No frame is taken back. -/
theorem Quiet.frames_prefix (h : session.Quiet other) : session.frames <+: other.frames :=
  h.attempts_prefix.map _

theorem Succeeding.quiet (h : session.Succeeding) (hQuiet : session.Quiet other) :
    other.Succeeding :=
  h.mono (fun _ _ _ => (awaits_of_pending_eq hQuiet.pending_eq).mp) hQuiet.frames_prefix

/-- A view that asks for rows gives up the request in flight, if there is one, right before. -/
theorem Succeeding.issue {view : View} (h : session.Succeeding) (hBalanced : session.Balanced)
    (hLeads : view.Leads session)
    (hNewest : ∀ handle generation, session.Awaits handle view.serial generation →
      generation ≤ view.generation) {call : Call}
    (hMethod : IsRowMethod call.method) :
    (view.issue call session).2.Succeeding := by
  have hQuiet := view.quiet_cancelInFlight session
  have hNew := (hBalanced.quiet hQuiet).pending?_next
  rw [View.issue_eq]
  intro first second serial generation hFirst hSecond
  rw [awaits_invoke hNew, awaits_of_pending_eq hQuiet.pending_eq] at hFirst hSecond
  rcases hFirst with hFirst | ⟨-, hFirst⟩
  · rcases hSecond with hSecond | ⟨rfl, hSecond⟩
    · refine (h first second serial generation hFirst hSecond).mono ?_
      exact hQuiet.frames_prefix.trans (frames_invoke .. ▸ List.prefix_append _ _)
    · -- The request before is the newest one so far, so it is in flight.
      simp only [Observer.renderer.injEq, Nat.add_right_cancel_iff] at hSecond
      obtain ⟨rfl, rfl⟩ := hSecond
      have hInFlight := (hLeads first).mpr hFirst
      obtain ⟨receiver, hPending, -⟩ := hFirst
      have hFrames := frames_cancel hPending
      refine ⟨session.frames, [], call.method, call.arguments, ?_, hMethod⟩
      simp only [View.cancelInFlight, hInFlight, frames_invoke, hFrames, List.append_assoc]
      rfl
  · cases hFirst
    rcases hSecond with hSecond | ⟨-, hSecond⟩
    · have hOlder := hNewest _ _ hSecond
      omega
    · simp only [Observer.renderer.injEq] at hSecond
      omega

end Session

namespace Page

variable {loads : Prop} {page next : Page}

theorem session_newView_of_none (hView : page.view = none) (tableId : ObjectId) :
    (page.newView tableId).session = page.session := by
  simp [newView, setView, withView, hView]

/-- A move hands over requests under new numbers and cancellations of those that wait. -/
theorem Move.acts (hMove : Move loads page next) : page.session.Acts next.session := by
  cases hMove with
  | report message => exact .single (.report message)
  | cancel id => exact .single (.cancel id)
  | @invoke call observer hObserver hMethod =>
      have hOther : ¬ observer.Renders := fun ⟨serial, generation, hSame⟩ =>
        hObserver serial generation hSame
      have hPlain : call.method ∈ ["prepareFiles", "loadTable", "range"] := by
        rcases hMethod with ⟨-, hMethod⟩ | ⟨hMethod, -⟩
        · exact List.mem_append_left ["range"] hMethod
        · simp [hMethod]
      refine .single (.invoke ?_ (iff_of_false ?_ hOther)) <;> revert hPlain <;>
        simp +contextual [Request.cancelMethod, IsRowMethod, or_imp]
  | @ask view hView order call hCall =>
      have hMethod : call.method ≠ Request.cancelMethod := by
        rcases hCall.isRowMethod with hSame | hSame <;> rw [hSame] <;> decide
      rw [View.issue_eq]
      exact (View.acts_cancelInFlight { view with order := order } page.session).tail
        (.invoke hMethod (iff_of_true hCall.isRowMethod ⟨_, _, rfl⟩))
  | adjust | setRange => exact .refl
  | newView tableId =>
      cases hView : page.view with
      | none => rw [session_newView_of_none hView]
      | some view =>
          rw [session_newView hView]
          exact view.acts_cancelInFlight page.session

theorem Moves.acts (hMoves : Moves loads page next) : page.session.Acts next.session := by
  induction hMoves with
  | refl => exact .refl
  | tail _ hMove ih => exact ih.trans hMove.acts

/-- The same holds of what an observer does at the end of its request. -/
theorem acts_onCompleted (observer : Observer) : page.session.Acts (observer.onCompleted page).session := by
  rcases observer.renders_or with ⟨serial, generation, rfl⟩ | hOther
  · exact .refl
  · exact Moves.acts (moves_onCompleted hOther)

/-- A view that asks for rows again hands over the cancellation of the former request just before.
-/
theorem succeeding_move (h : page.session.Succeeding) (hLed : page.Led) (hMove : Move loads page next) :
    next.session.Succeeding := by
  cases hMove with
  | report message => exact h.quiet (.report .refl message)
  | cancel id => exact h.quiet (.cancel .refl id)
  | @invoke call observer hObserver =>
      refine h.mono (fun handle serial generation hAwaits => ?_) ?_
      · refine ((Session.awaits_invoke hLed.balanced.pending?_next).mp hAwaits).resolve_right ?_
        exact fun hNew => hObserver _ _ hNew.2
      · exact Session.frames_invoke .. ▸ List.prefix_append _ _
  | @ask view hView order call hCall =>
      have hLeads : { view with order := order }.Leads page.session := hLed.leads view hView
      exact h.issue hLed.balanced hLeads
        (fun _ _ => newest_of_attributed hLed.attributed hView) hCall.isRowMethod
  | adjust | setRange => exact h
  | newView tableId => exact h.quiet (page.quiet_newView tableId).session

theorem succeeding_moves (h : page.session.Succeeding) (hLed : page.Led) (hMoves : Moves loads page next) :
    next.session.Succeeding := by
  induction hMoves with
  | refl => exact h
  | tail hBefore hMove ih => exact succeeding_move ih (hLed.moves hBefore) hMove

section Turn

/-- No frame is handed over before the observer of a request that has ended acts. -/
theorem orderly_turn (h : page.session.Orderly) (hBalanced : page.session.Balanced)
    (hTurn : Turn page next) :
    ∃ middle : Session, middle.frames = page.session.frames ∧ middle.Orderly ∧
      middle.Acts next.session := by
  cases hTurn with
  | idle => exact ⟨_, rfl, h, .refl⟩
  | unknown =>
      exact ⟨page.popped.session, rfl,
        h.of_subset rfl rfl fun _ _ hWaits => hWaits, .refl⟩
  | @accepted id result pending done payload hQueue hPending hDecodes =>
      have hAttempts := attempts_resume (page.popped.withdrawn id) pending.objectId id
        pending.receiver done payload
      refine ⟨_, congrArg (List.map Attempt.frame) hAttempts, h.of_left hAttempts
        (nextRequestId_resume _ _ _ _ _ _) fun key waiting hWaits => ?_, .refl⟩
      by_cases hOwn : key = id
      · subst hOwn
        rw [pending?_resume_self _ done payload hBalanced.keys, Option.some.injEq] at hWaits
        subst hWaits
        exact ⟨pending, hPending, pending.continues_collect payload⟩
      · rw [pending?_resume_of_ne _ done payload hOwn] at hWaits
        exact ⟨waiting, hWaits, .refl _⟩
  | @ended frame pending error hQueue hPending hEnds =>
      rw [finish_eq_onCompleted hBalanced hPending]
      refine ⟨(page.concluded frame.requestId pending.receiver error).session, rfl,
        h.of_subset rfl rfl fun key waiting hWaits => ?_, acts_onCompleted _⟩
      rw [pending?_concluded hBalanced] at hWaits
      split at hWaits
      · cases hWaits
      · exact hWaits

/-- An observer that makes a new view asks for the first rows of it, which succeed none. -/
theorem succeeding_turn (h : page.session.Succeeding) (hLed : page.Led) (hTurn : Turn page next) :
    next.session.Succeeding := by
  cases hTurn with
  | idle | unknown => exact h
  | @accepted id result pending done payload hQueue hPending hDecodes =>
      refine h.mono (fun _ _ _ => (awaits_resume hLed.balanced hPending done payload).mp) ?_
      have hAttempts := attempts_resume (page.popped.withdrawn id) pending.objectId id
        pending.receiver done payload
      rw [Session.frames, Session.frames, hAttempts]
      exact List.prefix_rfl
  | @ended frame pending error hQueue hPending hEnds =>
      have hConcluded : (page.concluded frame.requestId pending.receiver error).session.Succeeding :=
        h.mono (fun _ _ _ hAwaits =>
          ((Session.awaits_unregister hLed.balanced.keys).mp hAwaits).1) List.prefix_rfl
      rw [finish_eq_onCompleted hLed.balanced hPending]
      rcases pending.receiver.observer.renders_or with ⟨serial, generation, hObserver⟩ | hOther
      · rw [hObserver, Observer.onCompleted_renderer]
        exact hConcluded
      · exact succeeding_moves hConcluded (hLed.concluded hPending hOther error)
          (moves_onCompleted hOther)

end Turn

section Run

/-- In each operation the session is used only after replies have been taken in. -/
theorem orderly_step (h : page.session.Orderly) (hBalanced : page.session.Balanced)
    {operation : Operation} (hOrdinary : operation.IsOrdinary) :
    ∃ middle : Session, middle.frames = page.session.frames ∧ middle.Orderly ∧
      middle.Acts (page.step operation).session := by
  rcases operation.handles_or with rfl | ⟨frame, rfl⟩ | ⟨hOther, hHandling⟩
  · exact orderly_turn h hBalanced (turn_of_balanced hBalanced)
  · exact ⟨(page.step (.receive frame)).session, rfl,
      h.of_subset rfl rfl fun _ _ hWaits => hWaits, .refl⟩
  · have hMoves : Moves _ page (page.step operation) := moves_step hOrdinary hOther hHandling
    exact ⟨page.session, rfl, h, hMoves.acts⟩

/-- No operation skips a number, and none lets anyone wait without a request of its own. -/
theorem orderly_behind_step (h : page.session.Orderly) (hBalanced : page.session.Balanced)
    {operation : Operation} (hOrdinary : operation.IsOrdinary) :
    (page.step operation).session.Orderly := by
  obtain ⟨middle, -, hMiddle, hActs⟩ := orderly_step h hBalanced hOrdinary
  exact hMiddle.acts hActs

/-- An operation asks for rows once at most, right behind the cancellation of those in flight. -/
theorem succeeding_step (h : page.session.Succeeding) (hLed : page.Led) {operation : Operation}
    (hOrdinary : operation.IsOrdinary) : (page.step operation).session.Succeeding := by
  rcases operation.handles_or with rfl | ⟨frame, rfl⟩ | ⟨hOther, hHandling⟩
  · exact succeeding_turn h hLed (turn_of_balanced hLed.balanced)
  · exact h
  · exact succeeding_moves h hLed (moves_step hOrdinary hOther hHandling)

variable (accepts : Nat → Bool) {operations : List Operation}

/-- In every run, the requests carry the numbers from one on, and whoever waits has handed over a
request of its number. -/
theorem orderly_run (hOrdinary : ∀ operation ∈ operations, operation.IsOrdinary) :
    ((opened accepts).run operations).session.Orderly :=
  run_keeps (motive := fun other => other.session.Orderly)
    (fun operation hOperation _ hBalanced hBefore =>
      orderly_behind_step hBefore hBalanced (hOrdinary operation hOperation))
    (.fresh accepts) (.fresh accepts)

/-- In every run, each request for rows that replaces a waiting one stands right behind its
cancellation. -/
theorem succeeding_run (hOrdinary : ∀ operation ∈ operations, operation.IsOrdinary) :
    ((opened accepts).run operations).session.Succeeding := by
  induction operations using List.reverseRecOn with
  | nil => exact fun _ _ _ _ ⟨_, hPending, _⟩ => nomatch hPending
  | append_singleton operations operation ih =>
      have hBefore : ∀ other ∈ operations, other.IsOrdinary := fun other hOther =>
        hOrdinary other (List.mem_append_left _ hOther)
      obtain ⟨-, hLed⟩ := superseding_run (superseding_opened accepts) (led_opened accepts) hBefore
      rw [run_concat]
      exact succeeding_step (ih hBefore) hLed
        (hOrdinary operation (List.mem_append_right _ (List.mem_singleton_self _)))

/-- What an operation hands to the transport is in order. -/
theorem exists_hands_step (h : page.session.Orderly) (hBalanced : page.session.Balanced)
    {operation : Operation} (hOrdinary : operation.IsOrdinary) :
    ∃ handed, page.session.Hands (page.step operation).session handed := by
  obtain ⟨middle, hFrames, hMiddle, hActs⟩ := orderly_step h hBalanced hOrdinary
  obtain ⟨handed, hHands⟩ := hMiddle.exists_hands hActs
  exact ⟨handed, hFrames ▸ hHands.frames_eq, hFrames ▸ hHands.cancels⟩

/-- A request for rows belongs to a view, and it has replaced the request before if that still waits. -/
theorem replaces_of_isRowMethod {session : Session} (hOrderly : session.Orderly)
    (hSucceeding : session.Succeeding) {request : Request} (hRequest : request ∈ session.requests)
    (hMethod : IsRowMethod request.method) (hWaits : (session.pending? request.requestId).isSome) :
    ∃ serial generation,
      session.Awaits ⟨request.requestId, request.objectId⟩ serial generation ∧
      ∀ first earlier, generation = earlier + 1 → session.Awaits first serial earlier →
        ∃ before after, session.frames =
          before ++ .cancellation first.requestId first.objectId :: request :: after := by
  obtain ⟨pending, hPending⟩ := Option.isSome_iff_exists.mp hWaits
  obtain ⟨-, own, hOwn, hId, hObject, hRows⟩ := hOrderly.waiting _ pending hPending
  obtain rfl := hOrderly.request_eq hOwn hRequest hId
  obtain ⟨serial, generation, hObserver⟩ := hRows.mp hMethod
  have hAwaits : session.Awaits ⟨own.requestId, own.objectId⟩ serial generation :=
    ⟨pending.receiver, by rw [hPending, hObject], hObserver⟩
  refine ⟨serial, generation, hAwaits, ?_⟩
  rintro first earlier rfl hFirst
  obtain ⟨before, after, method, arguments, hFrames, hRow⟩ := hSucceeding _ _ _ _ hFirst hAwaits
  have hSecond : (⟨own.requestId, own.objectId, method, arguments⟩ : Request) ∈ session.requests := by
    rw [Session.requests, List.mem_filter, hFrames]
    refine ⟨by simp, ?_⟩
    rcases hRow with rfl | rfl <;> rfl
  rw [hOrderly.request_eq hSecond hOwn rfl] at hFrames
  exact ⟨before, after, hFrames⟩

/-- The client speaks a well-formed protocol. In every run of the operations of the user, over any
transport and with any replies, the requests handed to the transport are numbered 1, 2, 3 and so on.
Each operation gives up only requests that were handed over before and that have not ended when it is
over. A request for rows that waits belongs to a view, and if the request of this view before it waits
too, the cancellation of that one stands immediately in front. -/
theorem frames_wellFormed (accepts : Nat → Bool) (operations : List Operation)
    (hOrdinary : ∀ operation ∈ operations, operation.IsOrdinary) :
    let page := (opened accepts).run operations
    page.session.requests.map Request.requestId = List.range' 1 page.session.requests.length ∧
    (∀ before operation after, operations = before ++ operation :: after →
      ∃ handed, ((opened accepts).run before).session.Hands
        ((opened accepts).run (before ++ [operation])).session handed) ∧
    ∀ request ∈ page.session.requests, IsRowMethod request.method →
      (page.session.pending? request.requestId).isSome →
      ∃ serial generation,
        page.session.Awaits ⟨request.requestId, request.objectId⟩ serial generation ∧
        ∀ first earlier, generation = earlier + 1 → page.session.Awaits first serial earlier →
          ∃ before after, page.session.frames =
            before ++ .cancellation first.requestId first.objectId :: request :: after := by
  intro page
  have hOrderly : page.session.Orderly := orderly_run accepts hOrdinary
  refine ⟨hOrderly.numbered, ?_, fun request hRequest hMethod hWaits => ?_⟩
  · rintro before operation after rfl
    have hBefore : ∀ other ∈ before, other.IsOrdinary := fun other hOther =>
      hOrdinary other (List.mem_append_left _ hOther)
    rw [run_concat]
    exact exists_hands_step (orderly_run accepts hBefore) (balanced_run (.fresh accepts) before)
      (hOrdinary operation (List.mem_append_right _ List.mem_cons_self))
  · exact replaces_of_isRowMethod hOrderly (succeeding_run accepts hOrdinary) hRequest hMethod hWaits

/-- The columns of a table are asked for, its rows are asked for before they have come, and then
everything is given up over a transport that takes no frame after the second one. -/
theorem frames_wellFormed_of_noRows :
    let operations : List Operation := [.start, .showTable ⟨"t"⟩, .noRows, .cancelAll]
    let accepts : Nat → Bool := fun place => place < 2
    let page := (opened accepts).run operations
    let rows : Request := ⟨3, ⟨"t"⟩, "getTableView", (Wire.encode SortOrder.empty).sorted⟩
    ((∀ operation ∈ operations, operation.IsOrdinary) ∧ rows ∈ page.session.requests ∧
      IsRowMethod rows.method ∧ (page.session.pending? rows.requestId).isSome ∧
      page.session.Awaits ⟨2, ⟨"t"⟩⟩ 0 1 ∧ page.session.Awaits ⟨3, ⟨"t"⟩⟩ 0 2) ∧
    page.session.requests.map Request.requestId = List.range' 1 page.session.requests.length ∧
    (∃ handed, ((opened accepts).run [.start, .showTable ⟨"t"⟩, .noRows]).session.Hands
      page.session handed) ∧
    ∃ before after, page.session.frames =
      before ++ .cancellation 2 ⟨"t"⟩ :: rows :: after := by
  intro operations accepts page rows
  have hOrdinary : ∀ operation ∈ operations, operation.IsOrdinary := by
    simp [operations, Operation.IsOrdinary]
  have hRows : rows ∈ page.session.requests := by decide +kernel
  have hWaits : (page.session.pending? rows.requestId).isSome := by decide +kernel
  have hFirst : page.session.Awaits ⟨2, ⟨"t"⟩⟩ 0 1 :=
    ⟨⟨2, 1, false, .renderer 0 1⟩, by decide +kernel, rfl⟩
  have hPending : page.session.pending? 3 = some ⟨⟨"t"⟩, ⟨3, 2, false, .renderer 0 2⟩⟩ := by
    decide +kernel
  obtain ⟨hNumbered, hHands, hReplaces⟩ := frames_wellFormed accepts operations hOrdinary
  obtain ⟨serial, generation, hAwaits, hReplaces⟩ := hReplaces rows hRows (Or.inr rfl) hWaits
  obtain ⟨-, hObserver⟩ := hAwaits.observer_eq hPending
  cases hObserver
  exact ⟨⟨hOrdinary, hRows, Or.inr rfl, hWaits, hFirst, ⟨_, hPending, rfl⟩⟩, hNumbered,
    hHands [.start, .showTable ⟨"t"⟩, .noRows] .cancelAll [] rfl, hReplaces ⟨2, ⟨"t"⟩⟩ 1 rfl hFirst⟩

end Run

end Page

end RemoteTable
