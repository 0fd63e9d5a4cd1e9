import RemoteTable.Proofs.Page.Run

/-! What the handling of one reply does. A receiver either takes a value and stays registered, or it
ends, and then its observer may use the session. -/

namespace RemoteTable

/-- The error that a reply is for a consumer. It says what the consumer is for. -/
def Observes.failure? {σ α : Type} [Observes σ α] (observer : σ) : Reply → Option String
  | .next result =>
    match (expected observer).decode result with
    | .ok _ => none
    | .error err => some (description observer ++ ": " ++ ("unexpected reply: " ++ err.message))
  | .error message => some (description observer ++ ": " ++ message)
  | .completed | .cancelled => none

namespace Observer

/-- Values never use the session. Observers that continue wait for the end of their request. -/
@[simp] theorem session_onNext (observer : Observer) (payload : Payload) (page : Page) :
    (observer.onNext page payload).session = page.session := by
  unfold onNext
  split <;> rfl

/-- What an observer does at a value tells no other one. -/
@[simp] theorem journal_onNext (observer : Observer) (payload : Payload) (page : Page) :
    (observer.onNext page payload).journal = page.journal := by
  unfold onNext
  split <;> rfl

@[simp] theorem nextSerial_onNext (observer : Observer) (payload : Payload) (page : Page) :
    (observer.onNext page payload).nextSerial = page.nextSerial := by
  unfold onNext
  split <;> rfl

@[simp] theorem homeId_onNext (observer : Observer) (payload : Payload) (page : Page) :
    (observer.onNext page payload).homeId = page.homeId := by
  unfold onNext
  split <;> rfl

/-- Ranges are shown at the end of their request. -/
@[simp] theorem range_onNext (observer : Observer) (payload : Payload) (page : Page) :
    (observer.onNext page payload).range = page.range := by
  unfold onNext
  split <;> rfl

/-- Only a snapshot for a renderer does anything to the page. -/
theorem onNext_cases (observer : Observer) (page : Page) (payload : Payload) :
    observer.onNext page payload = page ∨ ∃ serial generation data,
      observer = .renderer serial generation ∧ payload = .snapshot data ∧
      observer.onNext page payload =
        page.modifyViewFor serial (·.acceptSnapshot generation data) := by
  unfold onNext
  split
  · exact Or.inr ⟨_, _, _, rfl, rfl, rfl⟩
  · exact Or.inl rfl

/-- What a value does to the current view. -/
def display : Observer → Payload → View → View
  | renderer serial generation, .snapshot data, view =>
    if view.serial = serial then view.acceptSnapshot generation data else view
  | _, _, view => view

/-- What the end of a request does to the current view, unless another view takes its place. -/
def conclude : Observer → View → View
  | renderer serial generation, view =>
    if view.serial = serial then view.requestFinished generation else view
  | _, view => view

/-- A value concerns the view only as far as it is displayed. -/
theorem view_onNext (observer : Observer) (page : Page) (payload : Payload) :
    (observer.onNext page payload).view = page.view.map (observer.display payload) := by
  unfold onNext
  split
  · rfl
  · rename_i hOther
    have hSame : observer.display payload = id := by
      funext view
      unfold display
      split
      · exact absurd rfl (hOther _ _ _ rfl)
      · rfl
    rw [hSame, Option.map_id_apply]

/-- Renderers of other views or of former generations show nothing. -/
theorem display_of_ne {observer : Observer} {view : View}
    (hOther : observer ≠ .renderer view.serial view.generation) (payload : Payload) :
    observer.display payload view = view := by
  unfold display
  split
  · rename_i serial generation data
    split_ifs with hSerial
    · have hFormer : generation ≠ view.generation := fun hSame => hOther (by rw [hSerial, hSame])
      simp [View.acceptSnapshot, hFormer]
    · rfl
  · rfl

/-- Nor does their end concern the view. -/
theorem conclude_of_ne {observer : Observer} {view : View}
    (hOther : observer ≠ .renderer view.serial view.generation) : observer.conclude view = view := by
  unfold conclude
  split
  · rename_i serial generation
    split_ifs with hSerial
    · have hFormer : generation ≠ view.generation := fun hSame => hOther (by rw [hSerial, hSame])
      simp [View.requestFinished, hFormer]
    · rfl
  · rfl

/-- At its end, the newest request for rows is in flight no longer. -/
theorem conclude_newest (view : View) :
    (renderer view.serial view.generation).conclude view = { view with inFlight := none } := by
  simp [conclude, View.requestFinished]

/-- At the end, a renderer changes the current view and nothing else. -/
theorem onCompleted_renderer (serial generation : Nat) (page : Page) :
    (renderer serial generation).onCompleted page =
      page.modifyView (renderer serial generation).conclude := rfl

/-- The request is a step on the way to the first table. -/
def IsBootstrap : Observer → Prop
  | fileSet _ | tableLoader _ => True
  | _ => False

/-- The value has come that leads to a further request. -/
def Continues : Observer → Prop
  | fileSet (some _) | tableLoader (some _) => True
  | _ => False

/-- Only the steps on the way to the first table continue. -/
theorem Continues.isBootstrap {observer : Observer} (h : observer.Continues) :
    observer.IsBootstrap := by
  unfold Continues at h
  split at h
  · trivial
  · trivial
  · exact h.elim

/-- Collecting does not change what a request is for. -/
theorem isBootstrap_collect {observer : Observer} {payload : Payload} :
    (observer.collect payload).IsBootstrap ↔ observer.IsBootstrap := by
  unfold collect
  split <;> rfl

/-- Without such a value, the end of a request asks for nothing. -/
theorem session_onCompleted {observer : Observer} (h : ¬ observer.Continues) (page : Page) :
    (observer.onCompleted page).session = page.session := by
  unfold onCompleted
  split
  · exact absurd trivial h
  · exact absurd trivial h
  · rfl
  · split <;> rfl
  all_goals rfl

/-- At the end of such a request the view is concluded, and not replaced. -/
theorem view_onCompleted {observer : Observer} (h : ¬ observer.Continues) (page : Page) :
    (observer.onCompleted page).view = page.view.map observer.conclude := by
  have hStay : page.view = page.view.map fun view => view := Option.map_id_apply.symm
  unfold onCompleted
  split
  · exact absurd trivial h
  · exact absurd trivial h
  · rfl
  · split <;> exact hStay
  all_goals exact hStay

/-- Whether an observer is a renderer decides how its request may end. -/
theorem renders_or (observer : Observer) :
    (∃ serial generation, observer = .renderer serial generation) ∨
      ∀ serial generation, observer ≠ .renderer serial generation := by
  cases observer with
  | renderer serial generation => exact Or.inl ⟨serial, generation, rfl⟩
  | _ => exact Or.inr (by nofun)

/-- At the end of its request, an observer issues one further request at most. -/
theorem uses_onCompleted (observer : Observer) (page : Page) :
    page.Uses (observer.onCompleted page) := by
  unfold onCompleted
  repeat' split
  · exact page.uses_invoke _ _
  · exact page.uses_showTable _
  all_goals exact ⟨.quiet .refl, rfl⟩

end Observer

/-- The page with another last error. -/
def Page.withError (page : Page) (error : Option String) : Page :=
  { page with session := { page.session with lastError := error } }

namespace Receiver

section Generic

variable {σ : Type} (receiver : Receiver σ)

/-- The session when more of a request is done. -/
def progressed (done : Option Double) (session : Session) : Session :=
  match done with
  | none => session
  | some done => { session with progress := session.progress.set receiver.bar done }

/-- The session without the progress bar of a request. -/
def released (session : Session) : Session :=
  { session with progress := (session.progress.release receiver.bar).2 }

section Progressed

variable (done : Option Double) (session : Session)

@[simp] theorem pending_progressed :
    (receiver.progressed done session).pending = session.pending := by
  cases done <;> rfl

@[simp] theorem queue_progressed :
    (receiver.progressed done session).queue = session.queue := by
  cases done <;> rfl

@[simp] theorem nextRequestId_progressed :
    (receiver.progressed done session).nextRequestId = session.nextRequestId := by
  cases done <;> rfl

@[simp] theorem accepts_progressed :
    (receiver.progressed done session).accepts = session.accepts := by
  cases done <;> rfl

@[simp] theorem attempts_progressed :
    (receiver.progressed done session).attempts = session.attempts := by
  cases done <;> rfl

end Progressed

variable {α : Type} [Observes σ α] (page : Page)

/-- The page that the consumer sees when its request has ended. -/
def closing : Page :=
  { page with session := receiver.released page.session }.note receiver.requestId
    ((Observes.expected receiver.observer).noted .completed)

/-- The page that the consumer sees when it takes a value. -/
def showing (done : Option Double) (value : α) : Page :=
  { page with session := receiver.progressed done page.session }.note receiver.requestId
    ((Observes.expected receiver.observer).noted (.next value))

/-- The consumer takes a value when its progress is shown and the value is noted. -/
theorem accept_eq (done : Option Double) (value : α) :
    receiver.accept done value page =
      let outcome := Observes.onNext receiver.observer value (receiver.showing page done value)
      ({ receiver with observer := outcome.1 }, outcome.2) := by
  cases done <;> rfl

variable {receiver}

/-- A reply that comes after the end of the request has no effect. -/
theorem handle_of_finished (hFinished : receiver.finished = true) (reply : Reply) (page : Page) :
    receiver.handle reply page = (receiver, page) := by
  simp [handle, hFinished]

variable (hActive : receiver.finished = false)

include hActive

/-- The consumer acts when the progress bar is gone and the end is noted. -/
theorem finish_eq :
    receiver.finish page =
      let outcome := Observes.onCompleted receiver.observer (receiver.closing page)
      ({ receiver with finished := true, observer := outcome.1 }, outcome.2) := by
  simp only [finish, hActive, Bool.false_eq_true, if_false]
  rfl

/-- A value that decodes is taken. -/
theorem handle_of_decodes {result : Json} {done : Option Double} {value : α}
    (hDecodes : (Observes.expected receiver.observer).decode result = .ok (done, value)) :
    receiver.handle (.next result) page = receiver.accept done value page := by
  simp [handle, hActive, hDecodes]

/-- Whatever is not a value ends the request, after its error has been reported if it is one. -/
theorem handle_eq_finish {reply : Reply}
    (hEnds : ∀ result value, reply = .next result →
      (Observes.expected receiver.observer).decode result ≠ .ok value) :
    receiver.handle reply page = receiver.finish
      (page.withError ((Observes.failure? receiver.observer reply).or page.session.lastError)) := by
  cases reply with
  | next result =>
      cases hDecoded : (Observes.expected receiver.observer).decode result with
      | ok value => exact absurd hDecoded (hEnds result value rfl)
      | error err =>
          simp only [handle, Observes.failure?, hActive, hDecoded, Bool.false_eq_true, if_false]
          rfl
  | error message =>
      simp only [handle, hActive, Bool.false_eq_true, if_false]
      rfl
  | completed | cancelled =>
      simp only [handle, hActive, Bool.false_eq_true, if_false]
      rfl

/-- Apart from the last error, all replies that are no value have the same effect. -/
theorem handle_of_ends {reply : Reply}
    (hEnds : ∀ result value, reply = .next result →
      (Observes.expected receiver.observer).decode result ≠ .ok value) :
    ∃ error, receiver.handle reply page = receiver.finish (page.withError error) :=
  ⟨_, handle_eq_finish page hActive hEnds⟩

end Generic

section Accept

variable (receiver : Receiver) (page : Page) (done : Option Double) (payload : Payload)

/-- The receiver stays registered and keeps what its observer has collected. -/
theorem fst_accept : (receiver.accept done payload page).1 =
    { receiver with observer := receiver.observer.collect payload } := rfl

/-- The observer acts when the progress is shown and the value is noted. -/
theorem snd_accept : (receiver.accept done payload page).2 =
    receiver.observer.onNext (receiver.showing page done payload) payload := by
  rw [accept_eq]
  rfl

/-- A receiver that takes a value changes only what is shown of its progress. -/
theorem session_accept :
    (receiver.accept done payload page).2.session = receiver.progressed done page.session := by
  rw [snd_accept, Observer.session_onNext]
  rfl

/-- A value is displayed on the current view. -/
theorem view_accept :
    (receiver.accept done payload page).2.view =
      page.view.map (receiver.observer.display payload) := by
  rw [snd_accept, Observer.view_onNext]
  rfl

/-- The observer is told exactly the value. -/
theorem journal_accept :
    (receiver.accept done payload page).2.journal =
      page.journal ++ [⟨receiver.requestId, .next payload⟩] := by
  rw [snd_accept, Observer.journal_onNext]
  rfl

end Accept

/-- A reply is a value for the receiver, or it ends the request. -/
theorem decodes_or_ends (receiver : Receiver) (reply : Reply) :
    (∃ result done payload, reply = .next result ∧
      receiver.observer.decode result = .ok (done, payload)) ∨
    ∀ result value, reply = .next result → receiver.observer.decode result ≠ .ok value := by
  by_cases hEnds : ∀ result value, reply = .next result →
      receiver.observer.decode result ≠ .ok value
  · exact Or.inr hEnds
  · push Not at hEnds
    obtain ⟨result, ⟨done, payload⟩, hNext, hDecodes⟩ := hEnds
    exact Or.inl ⟨result, done, payload, hNext, hDecodes⟩

section Finish

variable {receiver : Receiver} (page : Page) (hActive : receiver.finished = false)

include hActive

/-- A receiver that has ended is not told anything any more. -/
theorem fst_finish : (receiver.finish page).1 = { receiver with finished := true } := by
  rw [finish_eq page hActive]
  rfl

/-- The observer acts when its bar is gone and the end is noted. -/
theorem snd_finish :
    (receiver.finish page).2 = receiver.observer.onCompleted (receiver.closing page) := by
  rw [finish_eq page hActive]
  rfl

/-- At its end, a request is released before anything else is asked for. -/
theorem uses_finish :
    (receiver.released page.session).Uses (receiver.finish page).2.session := by
  rw [snd_finish page hActive]
  exact (receiver.observer.uses_onCompleted (receiver.closing page)).session

/-- The observer is told the end exactly once. -/
theorem journal_finish :
    (receiver.finish page).2.journal = page.journal ++ [⟨receiver.requestId, .completed⟩] := by
  rw [snd_finish page hActive]
  exact (receiver.observer.uses_onCompleted (receiver.closing page)).journal

end Finish

end Receiver

namespace Page

/-- The page without its first waiting reply. -/
def popped (page : Page) : Page :=
  { page with session := { page.session with queue := page.session.queue.tail } }

/-- The page without the entry of a request. -/
def withdrawn (page : Page) (id : Nat) : Page :=
  { page with session := page.session.unregister id }

/-- The page that an observer sees when a reply has ended its request. -/
def concluded (page : Page) (id : Nat) (receiver : Receiver) (error : Option String) : Page :=
  receiver.closing ((page.popped.withdrawn id).withError error)

/-- A receiver that goes on waits for further replies. -/
def resume (objectId : ObjectId) (id : Nat) (outcome : Receiver × Page) : Page :=
  { outcome.2 with session := outcome.2.session.register id ⟨objectId, outcome.1⟩ }

section Resume

variable (page : Page) (objectId : ObjectId) (id : Nat) (receiver : Receiver)
  (done : Option Double) (payload : Payload)

/-- The session when a receiver has taken a value and waits again. -/
theorem session_resume :
    (resume objectId id (receiver.accept done payload page)).session =
      (receiver.progressed done page.session).register id
        ⟨objectId, { receiver with observer := receiver.observer.collect payload }⟩ := by
  rw [resume, Receiver.session_accept, Receiver.fst_accept]

theorem queue_resume :
    (resume objectId id (receiver.accept done payload page)).session.queue =
      page.session.queue := by
  rw [session_resume]
  exact receiver.queue_progressed done page.session

theorem nextRequestId_resume :
    (resume objectId id (receiver.accept done payload page)).session.nextRequestId =
      page.session.nextRequestId := by
  rw [session_resume]
  exact receiver.nextRequestId_progressed done page.session

theorem accepts_resume :
    (resume objectId id (receiver.accept done payload page)).session.accepts =
      page.session.accepts := by
  rw [session_resume]
  exact receiver.accepts_progressed done page.session

theorem attempts_resume :
    (resume objectId id (receiver.accept done payload page)).session.attempts =
      page.session.attempts := by
  rw [session_resume]
  exact receiver.attempts_progressed done page.session

theorem view_resume :
    (resume objectId id (receiver.accept done payload page)).view =
      page.view.map (receiver.observer.display payload) := by
  rw [resume, Receiver.view_accept]

theorem nextSerial_resume :
    (resume objectId id (receiver.accept done payload page)).nextSerial = page.nextSerial := by
  rw [resume, Receiver.snd_accept]
  exact Observer.nextSerial_onNext _ _ _

theorem homeId_resume :
    (resume objectId id (receiver.accept done payload page)).homeId = page.homeId := by
  rw [resume, Receiver.snd_accept]
  exact Observer.homeId_onNext _ _ _

theorem range_resume :
    (resume objectId id (receiver.accept done payload page)).range = page.range := by
  rw [resume, Receiver.snd_accept]
  exact Observer.range_onNext _ _ _

end Resume

theorem dispatch_of_none {page : Page} {frame : ReplyFrame}
    (hUnknown : page.session.pending? frame.requestId = none) : page.dispatch frame = page := by
  simp [dispatch, hUnknown]

theorem dispatch_of_some {page : Page} {frame : ReplyFrame} {pending : Pending}
    (hPending : page.session.pending? frame.requestId = some pending) :
    page.dispatch frame =
      let outcome := pending.receiver.handle frame.reply (page.withdrawn frame.requestId)
      if outcome.1.finished then outcome.2
      else resume pending.objectId frame.requestId outcome := by
  simp only [dispatch, hPending]
  rfl

/-- The ways in which the first waiting reply can be handled. -/
inductive Turn (page : Page) : Page → Prop where
  | idle (hEmpty : page.session.queue = []) : Turn page page
  | unknown {frame : ReplyFrame} (hQueue : page.session.queue.head? = some frame)
      (hUnknown : page.session.pending? frame.requestId = none) : Turn page page.popped
  | accepted {id : Nat} {result : Json} {pending : Pending} {done : Option Double}
      {payload : Payload} (hQueue : page.session.queue.head? = some ⟨id, .next result⟩)
      (hPending : page.session.pending? id = some pending)
      (hDecodes : pending.receiver.observer.decode result = .ok (done, payload)) :
      Turn page (resume pending.objectId id
        (pending.receiver.accept done payload (page.popped.withdrawn id)))
  | ended {frame : ReplyFrame} {pending : Pending} {error : Option String}
      (hQueue : page.session.queue.head? = some frame)
      (hPending : page.session.pending? frame.requestId = some pending)
      (hEnds : ∀ result value, frame.reply = .next result →
        pending.receiver.observer.decode result ≠ .ok value) :
      Turn page
        (pending.receiver.finish ((page.popped.withdrawn frame.requestId).withError error)).2

theorem step_handleNext {page : Page} {frame : ReplyFrame}
    (hQueue : page.session.queue.head? = some frame) :
    page.step .handleNext = page.popped.dispatch frame := by
  obtain ⟨rest, hCons⟩ := List.head?_eq_some_iff.mp hQueue
  simp [step, pumpOne, popped, hCons]

theorem turn_handleNext {page : Page}
    (hActive : ∀ id pending, page.session.pending? id = some pending →
      pending.receiver.finished = false) :
    Turn page (page.step .handleNext) := by
  cases hQueue : page.session.queue.head? with
  | none =>
      have hEmpty : page.session.queue = [] := List.head?_eq_none_iff.mp hQueue
      have hSame : page.step .handleNext = page := run_handleNext_of_empty page hEmpty 1
      rw [hSame]
      exact .idle hEmpty
  | some frame =>
      rw [step_handleNext hQueue]
      cases hPending : page.session.pending? frame.requestId with
      | none =>
          have hUnknown : page.popped.session.pending? frame.requestId = none := hPending
          rw [dispatch_of_none hUnknown]
          exact .unknown hQueue hPending
      | some pending =>
          have hKnown : page.popped.session.pending? frame.requestId = some pending := hPending
          have hOpen := hActive _ _ hPending
          rw [dispatch_of_some hKnown]
          rcases pending.receiver.decodes_or_ends frame.reply with
            ⟨result, done, payload, hNext, hDecodes⟩ | hEnds
          · obtain ⟨id, reply⟩ := frame
            cases hNext
            simp only [Receiver.handle_of_decodes _ hOpen hDecodes, Receiver.fst_accept, hOpen,
              Bool.false_eq_true, if_false]
            exact .accepted hQueue hPending hDecodes
          · obtain ⟨error, hHandle⟩ :=
              Receiver.handle_of_ends (page.popped.withdrawn frame.requestId) hOpen hEnds
            simp only [hHandle, Receiver.fst_finish _ hOpen, if_true]
            exact .ended hQueue hPending hEnds

end Page

end RemoteTable
