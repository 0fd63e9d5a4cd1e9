import RemoteTable.Proofs.Page.Handling

/-! A receiver by itself, fed with replies. What it tells its observer does not depend on the page:
values as they come, then once that the request is complete, and nothing more. -/

namespace RemoteTable

/-- What the observer of a request has been told, the oldest first. -/
def Page.journalOf (page : Page) (id : Nat) : List Observation :=
  (page.journal.filter (·.requestId == id)).map JournalEntry.observation

/-- Entries of one request come to its own journal only. -/
theorem Page.journalOf_append {page next : Page} {id owner : Nat} {said : List Observation}
    (hJournal : next.journal = page.journal ++ said.map (JournalEntry.mk owner)) :
    next.journalOf id = page.journalOf id ++ if owner = id then said else [] := by
  unfold journalOf
  rw [hJournal, List.filter_append, List.map_append, List.filter_map]
  split_ifs with hOwner
  · simp [Function.comp_def, hOwner]
  · simp [Function.comp_def, hOwner]

namespace Receiver

section Feed

variable {σ α : Type} [Observes σ α]

/-- Hands replies to a receiver, one after the other. -/
def feed (receiver : Receiver σ) (page : Page) : List Reply → Receiver σ × Page
  | [] => (receiver, page)
  | reply :: rest =>
    let outcome := receiver.handle reply page
    outcome.1.feed outcome.2 rest

/-- Replies in two portions have the same effect as all at once. -/
theorem feed_append (receiver : Receiver σ) (page : Page) (first second : List Reply) :
    receiver.feed page (first ++ second) =
      (receiver.feed page first).1.feed (receiver.feed page first).2 second := by
  induction first generalizing receiver page with
  | nil => rfl
  | cons reply rest ih => exact ih _ _

/-- What comes after the end of a request changes nothing. -/
theorem feed_of_finished {receiver : Receiver σ} (hFinished : receiver.finished = true) (page : Page)
    (replies : List Reply) : receiver.feed page replies = (receiver, page) := by
  induction replies with
  | nil => rfl
  | cons reply rest ih =>
      rw [feed, handle_of_finished hFinished, ih]

end Feed

/-- What a reply makes of a receiver, and what its observer is told. The page has no part in it. -/
def react (receiver : Receiver) (reply : Reply) : Receiver × List Observation :=
  if receiver.finished then (receiver, [])
  else match reply with
    | .next result =>
      match receiver.observer.decode result with
      | .ok (_, payload) =>
        ({ receiver with observer := receiver.observer.collect payload }, [.next payload])
      | .error _ => ({ receiver with finished := true }, [.completed])
    | .error _ | .completed | .cancelled => ({ receiver with finished := true }, [.completed])

/-- The receiver after some replies. -/
def after (receiver : Receiver) (replies : List Reply) : Receiver :=
  replies.foldl (fun receiver reply => (receiver.react reply).1) receiver

/-- What the observer is told by some replies. -/
def said (receiver : Receiver) : List Reply → List Observation
  | [] => []
  | reply :: rest => (receiver.react reply).2 ++ (receiver.react reply).1.said rest

theorem after_cons (receiver : Receiver) (reply : Reply) (rest : List Reply) :
    receiver.after (reply :: rest) = (receiver.react reply).1.after rest := rfl

theorem after_append (receiver : Receiver) (first second : List Reply) :
    receiver.after (first ++ second) = (receiver.after first).after second :=
  List.foldl_append

theorem said_append (receiver : Receiver) (first second : List Reply) :
    receiver.said (first ++ second) = receiver.said first ++ (receiver.after first).said second := by
  induction first generalizing receiver with
  | nil => rfl
  | cons reply rest ih =>
      rw [List.cons_append, said, said, ih, List.append_assoc]
      rfl

variable {receiver : Receiver}

/-- A receiver that has ended says nothing. -/
theorem react_of_finished (hFinished : receiver.finished = true) (reply : Reply) :
    receiver.react reply = (receiver, []) := by
  simp [react, hFinished]

/-- A value is said as it is. -/
theorem react_of_decodes (hActive : receiver.finished = false) {result : Json}
    {done : Option Double} {payload : Payload}
    (hDecodes : receiver.observer.decode result = .ok (done, payload)) :
    receiver.react (.next result) =
      ({ receiver with observer := receiver.observer.collect payload }, [.next payload]) := by
  simp [react, hActive, hDecodes]

/-- The end is said once, whatever ended the request. -/
theorem react_of_ends (hActive : receiver.finished = false) {reply : Reply}
    (hEnds : ∀ result value, reply = .next result → receiver.observer.decode result ≠ .ok value) :
    receiver.react reply = ({ receiver with finished := true }, [.completed]) := by
  cases reply with
  | next result =>
      cases hDecoded : receiver.observer.decode result with
      | ok value => exact absurd hDecoded (hEnds result value rfl)
      | error err => simp [react, hActive, hDecoded]
  | error | completed | cancelled => simp [react, hActive]

theorem requestId_react (receiver : Receiver) (reply : Reply) :
    (receiver.react reply).1.requestId = receiver.requestId := by
  unfold react
  repeat' split
  all_goals rfl

/-- Handling a reply tells the observer the same on every page. -/
theorem handle_react (receiver : Receiver) (reply : Reply) (page : Page) :
    (receiver.handle reply page).1 = (receiver.react reply).1 ∧
      (receiver.handle reply page).2.journal =
        page.journal ++ (receiver.react reply).2.map (JournalEntry.mk receiver.requestId) := by
  cases hActive : receiver.finished with
  | true => simp [handle_of_finished hActive, react_of_finished hActive]
  | false =>
      rcases receiver.decodes_or_ends reply with ⟨result, done, payload, rfl, hDecodes⟩ | hEnds
      · rw [handle_of_decodes page hActive hDecodes, react_of_decodes hActive hDecodes]
        exact ⟨rfl, receiver.journal_accept page done payload⟩
      · obtain ⟨error, hHandle⟩ := handle_of_ends page hActive hEnds
        rw [hHandle, react_of_ends hActive hEnds]
        exact ⟨fst_finish _ hActive, journal_finish _ hActive⟩

/-- What a receiver tells its observer depends on the replies, not on the page. -/
theorem feed_eq (receiver : Receiver) (page : Page) (replies : List Reply) :
    (receiver.feed page replies).2.journal =
      page.journal ++ (receiver.said replies).map (JournalEntry.mk receiver.requestId) := by
  induction replies generalizing receiver page with
  | nil => simp [feed, said]
  | cons reply rest ih =>
      obtain ⟨hReceiver, hJournal⟩ := receiver.handle_react reply page
      rw [feed, ih, hJournal, hReceiver, requestId_react, said, List.map_append, List.append_assoc]

/-- A receiver on a page without a journal. -/
theorem journalOf_feed (receiver : Receiver) (replies : List Reply) :
    (receiver.feed .fresh replies).2.journalOf receiver.requestId = receiver.said replies := by
  rw [Page.journalOf_append (receiver.feed_eq .fresh replies), if_pos rfl]
  rfl

/-- Nothing is said after the end. -/
theorem said_of_finished (hFinished : receiver.finished = true) (replies : List Reply) :
    receiver.said replies = [] := by
  induction replies with
  | nil => rfl
  | cons reply rest ih => rw [said, react_of_finished hFinished, ih, List.append_nil]

/-- What comes after the end of a request brings no value. -/
theorem after_of_finished (hFinished : receiver.finished = true) (replies : List Reply) :
    receiver.after replies = receiver := by
  induction replies with
  | nil => rfl
  | cons reply rest ih =>
      rw [after_cons, react_of_finished hFinished]
      exact ih

/-- An observer has been told of the end once if the receiver has finished since, else not. -/
theorem count_completed_said (hActive : receiver.finished = false) (replies : List Reply) :
    (receiver.said replies).count .completed =
      if (receiver.after replies).finished then 1 else 0 := by
  induction replies generalizing receiver with
  | nil => simp [said, after, hActive]
  | cons reply rest ih =>
      rw [said, after_cons]
      rcases receiver.decodes_or_ends reply with ⟨result, done, payload, rfl, hDecodes⟩ | hEnds
      · have hRest := @ih { receiver with observer := receiver.observer.collect payload } hActive
        rw [react_of_decodes hActive hDecodes, List.count_append, hRest]
        exact Nat.zero_add _
      · rw [react_of_ends hActive hEnds, after_of_finished rfl, said_of_finished rfl]
        rfl

/-- An observer is told values, then at most once that the request is complete, and nothing more. -/
theorem said_shape (receiver : Receiver) (replies : List Reply) :
    ∃ (values : List Payload) (last : List Observation),
      receiver.said replies = values.map .next ++ last ∧ (last = [] ∨ last = [.completed]) := by
  induction replies generalizing receiver with
  | nil => exact ⟨[], [], rfl, Or.inl rfl⟩
  | cons reply rest ih =>
      cases hActive : receiver.finished with
      | true => exact ⟨[], [], said_of_finished hActive _, Or.inl rfl⟩
      | false =>
          rcases receiver.decodes_or_ends reply with ⟨result, done, payload, rfl, hDecodes⟩ | hEnds
          · obtain ⟨values, last, hSaid, hLast⟩ :=
              ih { receiver with observer := receiver.observer.collect payload }
            refine ⟨payload :: values, last, ?_, hLast⟩
            rw [said, react_of_decodes hActive hDecodes, hSaid]
            rfl
          · refine ⟨[], [.completed], ?_, Or.inr rfl⟩
            rw [said, react_of_ends hActive hEnds, said_of_finished rfl]
            rfl

end Receiver

end RemoteTable
