import RemoteTable.Page.Basic

/-!
Handling replies. Each reply goes to the receiver of its request, which may act on the page: it
may show a table, issue further requests and give up others. The queue is worked off until it is
empty; since a receiver that issues requests ends by doing so, that takes a bounded number of
steps.
-/

namespace RemoteTable

/-- Consumers of type `σ` take values of type `α`. When they are called, they may change themselves and the
page. -/
class Observes (σ : Type) (α : outParam Type) where
  /-- Shown next to the progress bar of the request. -/
  description : σ → String
  expected : σ → Expected α
  onNext : σ → α → Page → σ × Page
  /-- Called once, when the request has ended. -/
  onCompleted : σ → Page → σ × Page

/-- Notes in the journal what the consumer of a request is told. -/
def Page.note (page : Page) (requestId : Nat) (observations : List Observation) : Page :=
  { page with journal := page.journal ++ observations.map (JournalEntry.mk requestId) }

namespace Receiver

variable {σ α : Type} [Observes σ α]

/-- Ends a request: its progress bar goes, and the consumer is told once. -/
def finish (receiver : Receiver σ) (page : Page) : Receiver σ × Page :=
  if receiver.finished then (receiver, page)
  else
    let page := { page with session := { page.session with
      progress := (page.session.progress.release receiver.bar).2 } }
    let outcome := Observes.onCompleted receiver.observer
      (page.note receiver.requestId ((Observes.expected receiver.observer).noted .completed))
    ({ receiver with finished := true, observer := outcome.1 }, outcome.2)

/-- Ends a request with an error that names what the consumer is for. -/
def fail (receiver : Receiver σ) (message : String) (page : Page) : Receiver σ × Page :=
  receiver.finish (page.reportError (Observes.description receiver.observer ++ ": " ++ message))

/-- Takes a value: shows how much is done and passes the value on. -/
def accept (receiver : Receiver σ) (done : Option Double) (value : α) (page : Page) :
    Receiver σ × Page :=
  let page := match done with
    | none => page
    | some done => { page with session := { page.session with
        progress := page.session.progress.set receiver.bar done } }
  let outcome := Observes.onNext receiver.observer value
    (page.note receiver.requestId ((Observes.expected receiver.observer).noted (.next value)))
  ({ receiver with observer := outcome.1 }, outcome.2)

/-- Handles a reply. A value that does not decode ends the request. -/
def handle (receiver : Receiver σ) (reply : Reply) (page : Page) : Receiver σ × Page :=
  if receiver.finished then (receiver, page)
  else match reply with
    | .next result =>
      match (Observes.expected receiver.observer).decode result with
      | .ok (done, value) => receiver.accept done value page
      | .error err => receiver.fail ("unexpected reply: " ++ err.message) page
    | .error message => receiver.fail message page
    | .completed | .cancelled => receiver.finish page

end Receiver

namespace Observer

/-- What a further value does to the page: snapshots go to their view. -/
def onNext (page : Page) : Observer → Payload → Page
  | renderer serial generation, .snapshot data =>
    page.modifyViewFor serial (·.acceptSnapshot generation data)
  | _, _ => page

/-- What the end of a request does to the page. -/
def onCompleted (page : Page) : Observer → Page
  | fileSet (some files) => page.loadTable files
  | tableLoader (some table) => page.showTable table
  | renderer serial generation => page.modifyViewFor serial (·.requestFinished generation)
  | rangeCollector serial column (some statistics) =>
    if (page.viewFor? serial).isSome then page.showRange ⟨column, statistics⟩ else page
  | fileSet none | tableLoader none | rangeCollector _ _ none | recorder _ _ _ => page

instance : Observes Observer Payload where
  description := description
  expected := expected
  onNext observer payload page := (observer.collect payload, observer.onNext page payload)
  onCompleted observer page := (observer, observer.onCompleted page)

end Observer

namespace Page

/-- Hands a reply to the receiver of its request, which stays registered until it is finished.
Replies to requests that have ended are dropped. -/
def dispatch (page : Page) (frame : ReplyFrame) : Page :=
  match page.session.pending? frame.requestId with
  | none => page
  | some pending =>
    let page := { page with session := page.session.unregister frame.requestId }
    let (receiver, page) := pending.receiver.handle frame.reply page
    if receiver.finished then page
    else { page with session :=
      page.session.register frame.requestId ⟨pending.objectId, receiver⟩ }

/-- Handles the first reply of the queue, if there is one. -/
def pumpOne (page : Page) : Option Page :=
  match page.session.queue with
  | [] => none
  | frame :: rest =>
    let session := { page.session with queue := rest }
    some ({ page with session := session }.dispatch frame)

/-- Handles replies until the queue is empty, at most `fuel` of them, and counts them. -/
def pumpUpTo : Nat → Page → Nat × Page
  | 0, page => (0, page)
  | fuel + 1, page =>
    match page.pumpOne with
    | none => (0, page)
    | some page =>
      let (count, page) := pumpUpTo fuel page
      (count + 1, page)

end Page

/-- How many further replies the end of a request can put into the queue, those caused by the
requests it issues included. -/
def Observer.weight : Observer → Nat
  | fileSet _ => 3
  | tableLoader _ => 2
  | renderer _ _ | rangeCollector _ _ _ | recorder _ _ _ => 0

namespace Page

/-- A bound on the number of replies that one run over the queue handles. -/
def pumpBound (page : Page) : Nat :=
  page.session.pending.foldr (fun entry bound => entry.2.receiver.observer.weight + bound)
    page.session.queue.length

/-- Handles every reply in the queue, those that come up on the way included, and counts them. -/
def pump (page : Page) : Nat × Page := pumpUpTo page.pumpBound page

end Page

end RemoteTable
