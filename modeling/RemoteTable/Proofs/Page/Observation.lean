import Mathlib.Data.List.Induction
import Mathlib.Data.List.TakeWhile
import RemoteTable.Proofs.Page.Balance
import RemoteTable.Proofs.Page.Feeding
import RemoteTable.Proofs.Session.Bars
import RemoteTable.Proofs.Wire.Lawful

/-! What comes of a request whose consumer leaves the page alone. The receiver makes one observation out
of whatever replies it gets: the values up to the first reply that is none, and then the end. This is so
for consumers of every type and for values of every type that can be decoded. -/

namespace RemoteTable

namespace Expected

variable {α : Type} (expected : Expected α)

/-- The value that a reply is, with the fraction of the work done if it comes with one. -/
def value? : Reply → Option (Option Double × α)
  | .next result => (expected.decode result).toOption
  | _ => none

/-- The reply is a value. -/
def takes (reply : Reply) : Bool := (expected.value? reply).isSome

/-- How much the bar of a request shows after these values. -/
def shown (values : List (Option Double × α)) : Double :=
  if expected.streamed then
    (values.getLast?.bind Prod.fst).elim Double.zero (·.clamp Double.zero (Double.ofNat 1))
  else Double.zero

variable {expected}

/-- Values are the replies that decode. -/
theorem value?_eq_some_iff {reply : Reply} {value : Option Double × α} :
    expected.value? reply = some value ↔
      ∃ result, reply = .next result ∧ expected.decode result = .ok value := by
  cases reply with
  | next result => cases hDecoded : expected.decode result <;> simp [value?, hDecoded, Except.toOption]
  | error | completed | cancelled => simp [value?]

/-- Everything else ends the request. -/
theorem value?_eq_none_iff {reply : Reply} :
    expected.value? reply = none ↔
      ∀ result value, reply = .next result → expected.decode result ≠ .ok value := by
  rw [Option.eq_none_iff_forall_ne_some]
  constructor
  · rintro hNone result value rfl hDecodes
    exact hNone value (value?_eq_some_iff.mpr ⟨result, rfl, hDecodes⟩)
  · intro hEnds value hValue
    obtain ⟨result, hNext, hDecodes⟩ := value?_eq_some_iff.mp hValue
    exact hEnds result value hNext hDecodes

theorem takes_eq_false_iff {reply : Reply} :
    expected.takes reply = false ↔ expected.value? reply = none :=
  Option.isSome_eq_false_iff.trans Option.isNone_iff_eq_none

/-- Values come with the fraction of the work done if they are expected so, and else without. -/
theorem isSome_of_decode {result : Json} {done : Option Double} {value : α}
    (h : expected.decode result = .ok (done, value)) : done.isSome = expected.streamed := by
  unfold decode at h
  split at h
  · rename_i hStreamed
    obtain ⟨streamed, -, hPart⟩ := Wire.exists_of_map_eq_ok h
    rw [← (Prod.mk.inj hPart).1, hStreamed]
    rfl
  · rename_i hBare
    obtain ⟨data, -, hPart⟩ := Wire.exists_of_map_eq_ok h
    rw [← (Prod.mk.inj hPart).1, Bool.eq_false_iff.mpr hBare]
    rfl

/-- A further value is shown if it comes with the fraction of the work done. -/
theorem shown_concat (values : List (Option Double × α)) {done : Option Double} (value : α)
    (hDone : done.isSome = expected.streamed) :
    expected.shown (values ++ [(done, value)]) =
      done.elim (expected.shown values) (·.clamp Double.zero (Double.ofNat 1)) := by
  unfold shown
  rw [List.getLast?_concat, Option.bind_some, ← hDone]
  cases done <;> rfl

end Expected

namespace Observes

variable {σ α : Type} [Observes σ α]

/-- The consumer becomes another one by these calls, the oldest first, each of them on some page. -/
inductive Called (observer : σ) : List (Told α) → σ → Prop where
  | nil : Called observer [] observer
  | next {calls : List (Told α)} {later : σ} (prior : Called observer calls later) (value : α)
      (page : Page) : Called observer (calls ++ [.next value]) (onNext later value page).1
  | completed {calls : List (Told α)} {later : σ} (prior : Called observer calls later) (page : Page) :
      Called observer (calls ++ [.completed]) (onCompleted later page).1

/-- Whatever calls it gets, the consumer leaves the page alone, and goes on to expect the same. It may look
at the page. -/
structure IsPassive (observer : σ) : Prop where
  onNext : ∀ {calls : List (Told α)} {later : σ}, Called observer calls later →
    ∀ value page, (onNext later value page).2 = page
  onCompleted : ∀ {calls : List (Told α)} {later : σ}, Called observer calls later →
    ∀ page, (onCompleted later page).2 = page
  expected : ∀ {calls : List (Told α)} {later : σ}, Called observer calls later →
    expected later = expected observer

/-- Whatever is neither a value nor an orderly end is an error. -/
theorem failure?_eq_none_iff {observer : σ} {reply : Reply} :
    failure? observer reply = none ↔
      (expected observer).takes reply = true ∨ reply = .completed ∨ reply = .cancelled := by
  cases reply with
  | next result =>
      cases hDecoded : (expected observer).decode result <;>
        simp [failure?, Expected.takes, Expected.value?, hDecoded, Except.toOption]
  | error | completed | cancelled => simp [failure?, Expected.takes, Expected.value?]

/-- An error says what the consumer is for. -/
theorem exists_of_failure? {observer : σ} {reply : Reply} {text : String}
    (h : failure? observer reply = some text) :
    ∃ message, text = description observer ++ ": " ++ message := by
  unfold failure? at h
  repeat' split at h
  all_goals cases h
  all_goals exact ⟨_, rfl⟩

end Observes

/-- The recorder of the program is such a consumer. -/
theorem Observer.isPassive_recorder (kind : PayloadKind) (streamed : Bool) (description : String) :
    Observes.IsPassive (recorder kind streamed description) := by
  have hSame : ∀ {calls : List Observation} {later : Observer},
      Observes.Called (recorder kind streamed description) calls later →
        later = recorder kind streamed description := by
    intro calls later hCalled
    induction hCalled with
    | nil => rfl
    | next prior value page ih =>
        subst ih
        rfl
    | completed prior page ih => exact ih
  constructor
  · intro calls later hCalled value page
    obtain rfl := hSame hCalled
    rfl
  · intro calls later hCalled page
    obtain rfl := hSame hCalled
    rfl
  · intro calls later hCalled
    rw [hSame hCalled]

/-- The page when this much more stands in the journal of a request, with other bars and another last
error. -/
def Page.observed (page : Page) (id : Nat) (noted : List Observation) (bars : List ProgressBar)
    (error : Option String) : Page :=
  { page with
    journal := page.journal ++ noted.map (JournalEntry.mk id)
    session := { page.session with
      progress := { page.session.progress with bars := bars }
      lastError := error } }

namespace Receiver

variable {σ α : Type} [Observes σ α]

/-- The receiver has had no replies. Its bar is the first one of its number and shows nothing done. -/
structure Starts (receiver : Receiver σ) (page : Page) (front : List ProgressBar) (bar : ProgressBar)
    (back : List ProgressBar) : Prop where
  active : receiver.finished = false
  bars : page.session.progress.bars = front ++ bar :: back
  own : bar.id = receiver.bar
  done : bar.done = Double.zero
  front : ∀ other ∈ front, other.id ≠ receiver.bar

/-- So does the receiver of a request that is issued. -/
theorem starts_invoke {page : Page} (h : page.session.Balanced) (call : Call) (observer : Observer) :
    (page.session.newReceiver observer).Starts (page.invoke call observer).2
      page.session.progress.bars ⟨page.session.progress.nextId, page.session.nextRequestId,
        observer.description, Double.zero⟩ [] where
  active := rfl
  bars := congrArg Progress.bars (page.session.progress_invoke call observer)
  own := rfl
  done := rfl
  front other hOther := Nat.ne_of_lt (h.barsBelow other hOther)

namespace Starts

variable {receiver : Receiver σ} {page : Page} {front back : List ProgressBar} {bar : ProgressBar}
  (h : receiver.Starts page front bar back)

include h

omit [Observes σ α] in
theorem active_with (observer : σ) :
    ({ receiver with observer := observer } : Receiver σ).finished = false := h.active

omit [Observes σ α] in
theorem observed_nil :
    page.observed receiver.requestId [] (front ++ { bar with done := Double.zero } :: back)
      page.session.lastError = page := by
  rw [← h.done, ← h.bars, Page.observed, List.map_nil, List.append_nil]

section Step

variable {observer : σ} {expected : Expected α} (hExpected : Observes.expected observer = expected)

include hExpected

/-- A value is passed on, and its progress is shown. -/
theorem handle_of_value (hPassive : ∀ value page, (Observes.onNext observer value page).2 = page)
    {reply : Reply} {done : Option Double} {value : α}
    (hValue : expected.value? reply = some (done, value)) (noted : List Observation) (before : Double)
    (error : Option String) :
    ∃ seen, { receiver with observer := observer }.handle reply
      (page.observed receiver.requestId noted (front ++ { bar with done := before } :: back) error) =
    ({ receiver with observer := (Observes.onNext observer value seen).1 },
      page.observed receiver.requestId (noted ++ expected.noted (.next value))
        (front ++ { bar with
          done := done.elim before (·.clamp Double.zero (Double.ofNat 1)) } :: back) error) := by
  subst hExpected
  obtain ⟨result, rfl, hDecodes⟩ := Expected.value?_eq_some_iff.mp hValue
  rw [handle_of_decodes _ (h.active_with observer) hDecodes, accept_eq]
  refine ⟨_, Prod.ext rfl ((hPassive value _).trans ?_)⟩
  cases done with
  | none => simp [Page.observed, showing, Page.note, progressed]
  | some done =>
      have hOwn : ({ bar with done := before } : ProgressBar).id = receiver.bar := h.own
      simp [Page.observed, showing, Page.note, progressed, Progress.set_of_split h.front hOwn]

/-- Whatever else comes is the end, and the bar goes. -/
theorem handle_of_end (hPassive : ∀ page, (Observes.onCompleted observer page).2 = page)
    {reply : Reply} (hEnd : expected.value? reply = none) (noted : List Observation) (before : Double)
    (error : Option String) :
    ∃ seen, { receiver with observer := observer }.handle reply
      (page.observed receiver.requestId noted (front ++ { bar with done := before } :: back) error) =
    ({ receiver with observer := (Observes.onCompleted observer seen).1, finished := true },
      page.observed receiver.requestId (noted ++ expected.noted .completed) (front ++ back)
        ((Observes.failure? observer reply).or error)) := by
  subst hExpected
  have hOwn : ({ bar with done := before } : ProgressBar).id = receiver.bar := h.own
  rw [handle_eq_finish _ (h.active_with observer) (Expected.value?_eq_none_iff.mp hEnd),
    finish_eq _ (h.active_with observer)]
  refine ⟨_, Prod.ext rfl ((hPassive _).trans ?_)⟩
  simp [Page.observed, Page.withError, Page.note, closing, released,
    Progress.release_of_split h.front hOwn]

end Step

variable (hPassive : Observes.IsPassive receiver.observer) {expected : Expected α}
  (hExpected : Observes.expected receiver.observer = expected)

include hPassive hExpected

/-- The receiver when it has taken these values. -/
theorem feed_of_values {replies : List Reply}
    (hValues : ∀ reply ∈ replies, expected.takes reply = true) :
    let values := replies.filterMap expected.value?
    let calls := values.map (Told.next ·.2)
    ∃ later, Observes.Called receiver.observer calls later ∧
      receiver.feed page replies = ({ receiver with observer := later },
        page.observed receiver.requestId (calls.flatMap expected.noted)
          (front ++ { bar with done := expected.shown values } :: back) page.session.lastError) := by
  induction replies using List.reverseRecOn with
  | nil =>
      have hNone : expected.shown [] = Double.zero := by
        unfold Expected.shown
        split <;> rfl
      refine ⟨receiver.observer, .nil, ?_⟩
      simp only [List.filterMap_nil, List.map_nil, List.flatMap_nil, hNone]
      exact Prod.ext rfl h.observed_nil.symm
  | append_singleton replies reply ih =>
      obtain ⟨before, hCalled, hBefore⟩ :=
        ih fun other hOther => hValues other (List.mem_append_left _ hOther)
      obtain ⟨⟨done, value⟩, hValue⟩ := Option.isSome_iff_exists.mp
        (hValues reply (List.mem_append_right _ (List.mem_singleton_self _)))
      obtain ⟨result, -, hDecodes⟩ := Expected.value?_eq_some_iff.mp hValue
      let values := replies.filterMap expected.value?
      have hShown := Expected.shown_concat values value (Expected.isSome_of_decode hDecodes)
      obtain ⟨seen, hHandle⟩ := h.handle_of_value ((hPassive.expected hCalled).trans hExpected)
        (hPassive.onNext hCalled) hValue ((values.map (Told.next ·.2)).flatMap expected.noted)
        (expected.shown values) page.session.lastError
      refine ⟨(Observes.onNext before value seen).1, ?_, ?_⟩
      · simpa [hValue] using hCalled.next value seen
      · rw [feed_append, hBefore, feed, feed, hHandle]
        simp [values, hValue, ← hShown]

/-- The receiver when it has taken these values and then its end. -/
theorem feed_of_end {replies : List Reply} {reply : Reply}
    (hValues : ∀ other ∈ replies, expected.takes other = true) (hEnd : expected.takes reply = false) :
    let calls := (replies.filterMap expected.value?).map (Told.next ·.2) ++ [Told.completed]
    let reached := receiver.feed page replies
    ∃ last, Observes.Called receiver.observer calls last ∧
      ∀ later, receiver.feed page (replies ++ reply :: later) =
        ({ receiver with observer := last, finished := true },
          page.observed receiver.requestId (calls.flatMap expected.noted) (front ++ back)
            ((Observes.failure? reached.1.observer reply).or page.session.lastError)) := by
  intro calls reached
  obtain ⟨before, hCalled, hBefore⟩ := h.feed_of_values hPassive hExpected hValues
  have hReached : reached = _ := hBefore
  let values := replies.filterMap expected.value?
  obtain ⟨seen, hHandle⟩ := h.handle_of_end ((hPassive.expected hCalled).trans hExpected)
    (hPassive.onCompleted hCalled) (Expected.takes_eq_false_iff.mp hEnd)
    ((values.map (Told.next ·.2)).flatMap expected.noted) (expected.shown values) page.session.lastError
  refine ⟨(Observes.onCompleted before seen).1, hCalled.completed seen, fun later => ?_⟩
  rw [feed_append, hBefore, feed, hHandle, feed_of_finished rfl, hReached]
  simp [calls, values]

/-- Behind values, a reply is reported if it is an error. -/
theorem lastError_handle_of_values {replies : List Reply}
    (hValues : ∀ other ∈ replies, expected.takes other = true) (reply : Reply) (error : Option String) :
    let reached := receiver.feed page replies
    (reached.1.handle reply (reached.2.withError error)).2.session.lastError =
      if expected.takes reply then error
      else (Observes.failure? reached.1.observer reply).or error := by
  intro reached
  obtain ⟨before, hCalled, hBefore⟩ := h.feed_of_values hPassive hExpected hValues
  have hReached : reached = _ := hBefore
  have hSame : Observes.expected before = expected := (hPassive.expected hCalled).trans hExpected
  rw [hReached]
  cases hReply : expected.value? reply with
  | none =>
      obtain ⟨seen, hHandle⟩ := h.handle_of_end hSame (hPassive.onCompleted hCalled) hReply _ _ error
      rw [if_neg (Bool.eq_false_iff.mp (Expected.takes_eq_false_iff.mpr hReply))]
      exact congrArg (·.2.session.lastError) hHandle
  | some value =>
      obtain ⟨seen, hHandle⟩ := h.handle_of_value hSame (hPassive.onNext hCalled) hReply _ _ error
      have hTakes : expected.takes reply = true := Option.isSome_of_eq_some hReply
      rw [if_pos hTakes]
      exact congrArg (·.2.session.lastError) hHandle

end Starts

/-- A list has this prefix that passes a test if the element behind it is the first that does not. -/
theorem takeWhile_eq_iff {β : Type} {test : β → Bool} {first later : List β} {next : β} :
    (first ++ next :: later).takeWhile test = first ↔
      (∀ other ∈ first, test other = true) ∧ test next = false := by
  induction first with
  | nil => cases hNext : test next <;> simp [hNext]
  | cons head rest ih => cases hHead : test head <;> simp [hHead, ih]

theorem takes_of_dropWhile {expected : Expected α} {replies : List Reply} {reply : Reply}
    {later : List Reply} (h : replies.dropWhile expected.takes = reply :: later) :
    expected.takes reply = false := by
  have hHead := List.head?_dropWhile_not expected.takes replies
  rw [h] at hHead
  exact hHead

/-- Replies that are not all values begin with values and then one that is none. -/
theorem exists_end {expected : Expected α} {replies : List Reply}
    (h : ¬ ∀ reply ∈ replies, expected.takes reply = true) :
    ∃ values reply later, replies = values ++ reply :: later ∧
      (∀ other ∈ values, expected.takes other = true) ∧ expected.takes reply = false := by
  cases hRest : replies.dropWhile expected.takes with
  | nil => exact absurd (List.dropWhile_eq_nil_iff.mp hRest) h
  | cons reply later =>
      refine ⟨replies.takeWhile expected.takes, reply, later, ?_, fun _ => List.mem_takeWhile_imp,
        takes_of_dropWhile hRest⟩
      rw [← hRest, List.takeWhile_append_dropWhile]

/-- A reply is reported if it is an error and the first one behind the values. -/
theorem Starts.lastError_handle {receiver : Receiver σ} {page : Page} {front back : List ProgressBar}
    {bar : ProgressBar} (h : receiver.Starts page front bar back)
    (hPassive : Observes.IsPassive receiver.observer) {expected : Expected α}
    (hExpected : Observes.expected receiver.observer = expected) (first : List Reply) (reply : Reply)
    (later : List Reply) (error : Option String) :
    let taken := (first ++ reply :: later).takeWhile expected.takes
    let told := (receiver.feed page taken).1.observer
    let reached := receiver.feed page first
    (reached.1.handle reply (reached.2.withError error)).2.session.lastError =
      if first = taken then (Observes.failure? told reply).or error else error := by
  intro taken told reached
  have hFirst : first = taken ↔
      (∀ other ∈ first, expected.takes other = true) ∧ expected.takes reply = false :=
    eq_comm.trans takeWhile_eq_iff
  by_cases hValues : ∀ other ∈ first, expected.takes other = true
  · rw [h.lastError_handle_of_values hPassive hExpected hValues]
    cases hTakes : expected.takes reply with
    | false =>
        have hSame : first = taken := hFirst.mpr ⟨hValues, hTakes⟩
        have hTold : told = reached.1.observer := congrArg (receiver.feed page · |>.1.observer) hSame.symm
        rw [if_neg Bool.false_ne_true, if_pos hSame, hTold]
    | true =>
        have hDiffers : first ≠ taken := fun hSame =>
          Bool.eq_false_iff.mp (hFirst.mp hSame).2 hTakes
        rw [if_pos rfl, if_neg hDiffers]
  · -- The request has ended before.
    obtain ⟨before, ending, behind, rfl, hBefore, hEnd⟩ := exists_end hValues
    obtain ⟨last, -, hReached⟩ := h.feed_of_end hPassive hExpected hBefore hEnd
    have hFinished : reached.1.finished = true := congrArg (·.1.finished) (hReached behind)
    rw [handle_of_finished hFinished, if_neg fun hSame => hValues (hFirst.mp hSame).1]
    rfl

/-- One receiver makes one observation of whatever replies it gets. Let its consumer leave the page alone,
of whatever type it is and whatever it expects, and let its bar be shown with nothing done. The consumer is
told the values up to the first reply that is none for it, and then once that the request is complete if
there is such a reply, and nothing else. Up to there the bar shows how much the last value has said to be
done, if values say so; then it is gone, and further replies change nothing. The first reply behind the
values is reported if it is an error, under the description of the consumer at that time, and no other one
is. Nothing else on the page changes. -/
theorem observes_values_then_end {receiver : Receiver σ} {page : Page} {front back : List ProgressBar}
    {bar : ProgressBar} (h : receiver.Starts page front bar back)
    (hPassive : Observes.IsPassive receiver.observer) (replies : List Reply) :
    let expected := Observes.expected receiver.observer
    let taken := replies.takeWhile expected.takes
    let rest := replies.dropWhile expected.takes
    let values := taken.filterMap expected.value?
    let calls := values.map (Told.next ·.2) ++ if rest = [] then [] else [.completed]
    let told := (receiver.feed page taken).1.observer
    let outcome := receiver.feed page replies
    Observes.Called receiver.observer calls outcome.1.observer ∧
    outcome.2 = page.observed receiver.requestId (calls.flatMap expected.noted)
      (if rest = [] then front ++ { bar with done := expected.shown values } :: back
        else front ++ back)
      ((rest.head?.bind (Observes.failure? told)).or page.session.lastError) ∧
    (outcome.1.finished = true ↔ rest ≠ []) ∧
    (rest ≠ [] → ∀ later, receiver.feed page (replies ++ later) = outcome) ∧
    (∀ first reply later error, replies = first ++ reply :: later →
      let reached := receiver.feed page first
      (reached.1.handle reply (reached.2.withError error)).2.session.lastError =
        if first = taken then (Observes.failure? told reply).or error else error) ∧
    (∀ reply, Observes.failure? told reply = none ↔
      expected.takes reply = true ∨ reply = .completed ∨ reply = .cancelled) ∧
    ∀ reply text, Observes.failure? told reply = some text →
      ∃ message, text = Observes.description told ++ ": " ++ message := by
  intro expected taken rest values calls told outcome
  have hExpected : Observes.expected receiver.observer = expected := rfl
  have hTaken : ∀ reply ∈ taken, expected.takes reply = true := fun _ => List.mem_takeWhile_imp
  have hSplit : taken ++ rest = replies := List.takeWhile_append_dropWhile
  obtain ⟨before, hCalled, hBefore⟩ := h.feed_of_values hPassive hExpected hTaken
  have hTold : told = before := congrArg (·.1.observer) hBefore
  have hErrors : ∀ first reply later error, replies = first ++ reply :: later →
      let reached := receiver.feed page first
      (reached.1.handle reply (reached.2.withError error)).2.session.lastError =
        if first = taken then (Observes.failure? told reply).or error else error := by
    rintro first reply later error hReplies
    have hHandle := h.lastError_handle hPassive hExpected first reply later error
    rw [← hReplies] at hHandle
    exact hHandle
  have hNone : ∀ reply, Observes.failure? told reply = none ↔
      expected.takes reply = true ∨ reply = .completed ∨ reply = .cancelled := by
    intro reply
    rw [Observes.failure?_eq_none_iff, hTold, hPassive.expected hCalled]
  have hText : ∀ reply text, Observes.failure? told reply = some text →
      ∃ message, text = Observes.description told ++ ": " ++ message :=
    fun _ _ => Observes.exists_of_failure?
  cases hRest : rest with
  | nil =>
      have hReplies : taken = replies := by rw [← hSplit, hRest, List.append_nil]
      have hCalls : calls = values.map (Told.next ·.2) := by
        show values.map (Told.next ·.2) ++ (if rest = [] then [] else [Told.completed]) = _
        rw [hRest, if_pos rfl, List.append_nil]
      have hOutcome : outcome = _ := (congrArg (receiver.feed page) hReplies.symm).trans hBefore
      rw [hCalls, hOutcome]
      refine ⟨hCalled, ?_, ?_, fun hMore => absurd rfl hMore, hErrors, hNone, hText⟩
      · rw [if_pos rfl]
        rfl
      · exact iff_of_false (Bool.eq_false_iff.mp h.active) (fun hMore => hMore rfl)
  | cons ending behind =>
      have hEnd : expected.takes ending = false := takes_of_dropWhile hRest
      have hCalls : calls = values.map (Told.next ·.2) ++ [.completed] := by
        show values.map (Told.next ·.2) ++ (if rest = [] then [] else [Told.completed]) = _
        rw [hRest, if_neg (List.cons_ne_nil _ _)]
      obtain ⟨last, hLast, hEnded⟩ := h.feed_of_end hPassive hExpected hTaken hEnd
      have hReplies : replies = taken ++ ending :: behind := by rw [← hRest, hSplit]
      have hOutcome : outcome = _ := (congrArg (receiver.feed page) hReplies).trans (hEnded behind)
      have hMore : ending :: behind ≠ [] := List.cons_ne_nil _ _
      rw [hCalls, hOutcome]
      refine ⟨hLast, ?_, iff_of_true rfl hMore, fun _ later => ?_, hErrors, hNone, hText⟩
      · rw [if_neg hMore]
        rfl
      · rw [hReplies, List.append_assoc]
        exact hEnded (behind ++ later)

end Receiver

/-- A consumer of values of any type that leaves the page alone and keeps a record of its calls. -/
structure Recorder (α : Type) where
  description : String
  expected : Expected α
  told : List (Told α)

namespace Recorder

variable {α : Type} {recorder later : Recorder α} {calls : List (Told α)}

instance : Observes (Recorder α) α where
  description := description
  expected := expected
  onNext recorder value page := ({ recorder with told := recorder.told ++ [.next value] }, page)
  onCompleted recorder page := ({ recorder with told := recorder.told ++ [.completed] }, page)

/-- What is on record are the calls. -/
theorem eq_of_called (h : Observes.Called recorder calls later) :
    later = { recorder with told := recorder.told ++ calls } := by
  induction h with
  | nil => rw [List.append_nil]
  | next prior value page ih | completed prior page ih =>
      subst ih
      exact congrArg (Recorder.mk _ _) (List.append_assoc _ _ _)

theorem isPassive (recorder : Recorder α) : Observes.IsPassive recorder where
  onNext _ _ _ := rfl
  onCompleted _ _ := rfl
  expected hCalled := by
    rw [eq_of_called hCalled]
    rfl

end Recorder

namespace Receiver

/-- One consumer takes numbers with the fraction of the work done, and a value comes after an error. Another
one takes any bare value, and its request is cancelled. -/
theorem observes_values_then_end_of_late_value :
    let bar : ProgressBar := ⟨0, 1, "Counting", Double.zero⟩
    let page : Page := { Page.fresh with session := { Session.fresh with
      progress := (Progress.empty.add 1 "Counting").2 } }
    let numbers : Receiver (Recorder UInt64) :=
      ⟨1, 0, false, ⟨"Counting", ⟨true, inferInstance, fun _ => []⟩, []⟩⟩
    let value (count : Int) : Reply := .next (.object [("done", .int 3), ("data", .int count)])
    let late : List Reply := [value 5, .error "gone", .completed, value 7]
    let anything : Receiver := ⟨1, 0, false, .recorder .json false "Counting"⟩
    let cancelled : List Reply := [.next .null, .cancelled]
    (numbers.Starts page [] bar [] ∧ Observes.IsPassive numbers.observer ∧
      (numbers.feed page [value 5]).1.observer.told = [.next 5] ∧
      (numbers.feed page [value 5]).2 = page.observed 1 [] [{ bar with done := Double.ofNat 1 }] none ∧
      (numbers.feed page late).1.observer.told = [.next 5, .completed] ∧
      (numbers.feed page late).2 = page.observed 1 [] [] (some "Counting: gone")) ∧
    anything.Starts page [] bar [] ∧ Observes.IsPassive anything.observer ∧
      (anything.feed page cancelled).2 =
        page.observed 1 [.next (.json .null), .completed] [] none := by
  intro bar page numbers value late anything cancelled
  have hNumbers : numbers.Starts page [] bar [] :=
    ⟨rfl, rfl, rfl, rfl, fun _ hBar => absurd hBar List.not_mem_nil⟩
  have hAnything : anything.Starts page [] bar [] :=
    ⟨rfl, rfl, rfl, rfl, fun _ hBar => absurd hBar List.not_mem_nil⟩
  have hPassive := numbers.observer.isPassive
  have hRecorder : Observes.IsPassive anything.observer := Observer.isPassive_recorder .json false "Counting"
  have observed_congr : ∀ {noted noted' bars bars' error error'}, noted = noted' → bars = bars' →
      error = error' → page.observed 1 noted bars error = page.observed 1 noted' bars' error' := by
    rintro _ _ _ _ _ _ rfl rfl rfl
    rfl
  obtain ⟨hFirst, hShown, -⟩ := observes_values_then_end hNumbers hPassive [value 5]
  obtain ⟨hAll, hEnded, -⟩ := observes_values_then_end hNumbers hPassive late
  obtain ⟨-, hCancelled, -⟩ := observes_values_then_end hAnything hRecorder cancelled
  refine ⟨⟨hNumbers, hPassive, ?_, hShown.trans ?_, ?_, hEnded.trans ?_⟩, hAnything, hRecorder,
    hCancelled.trans ?_⟩
  · rw [Recorder.eq_of_called hFirst]
    decide +kernel
  · exact observed_congr (by decide +kernel) (by decide +kernel) (by decide +kernel)
  · rw [Recorder.eq_of_called hAll]
    decide +kernel
  · exact observed_congr (by decide +kernel) (by decide +kernel) (by decide +kernel)
  · exact observed_congr (by decide +kernel) (by decide +kernel) (by decide +kernel)

end Receiver

end RemoteTable
