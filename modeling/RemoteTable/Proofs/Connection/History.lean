import RemoteTable.Proofs.Connection.Run

/-! What passes through a connection in the course of a run: frames that the sender is told have been
accepted, frames that the worker takes from its queue, and replies that it reads. -/

namespace RemoteTable

/-- The reply that a message carries. Texts that do not decode carry none. -/
def Incoming.reply? : Incoming → Option ReplyFrame
  | .text content => (Wire.decodeText ReplyFrame content).toOption
  | .other | .timeout | .close | .failure => none

/-- Nothing can be read after the message. -/
def Incoming.isLast : Incoming → Bool
  | .close | .failure => true
  | .text _ | .other | .timeout => false

namespace Connection

/-- What passes through a connection at one event. -/
inductive Passage where
  | accepted (frame : Request)
  | taken (frame : Request)
  | heard (frame : ReplyFrame)

/-- What passes at an event. The worker takes frames while it writes and hears replies while it
reads. -/
def passage? (connection : Connection) : Event → Option Passage
  | .send frame => if (connection.send frame).1 then some (.accepted frame) else none
  | .writeNext =>
    if connection.phase = .writing then connection.outbox.frames.head?.map .taken else none
  | .read message => if connection.phase = .reading then message.reply?.map .heard else none
  | .dropSender | .dropReplies | .finish => none

/-- What passes in a run, in order. -/
def history (connection : Connection) : List Event → List Passage
  | [] => []
  | event :: rest => (connection.passage? event).toList ++ (connection.step event).history rest

def acceptedFrames (past : List Passage) : List Request :=
  past.filterMap fun
    | .accepted frame => some frame
    | _ => none

def takenFrames (past : List Passage) : List Request :=
  past.filterMap fun
    | .taken frame => some frame
    | _ => none

def heardReplies (past : List Passage) : List ReplyFrame :=
  past.filterMap fun
    | .heard frame => some frame
    | _ => none

@[simp] theorem acceptedFrames_append (first second : List Passage) :
    acceptedFrames (first ++ second) = acceptedFrames first ++ acceptedFrames second :=
  List.filterMap_append

@[simp] theorem takenFrames_append (first second : List Passage) :
    takenFrames (first ++ second) = takenFrames first ++ takenFrames second :=
  List.filterMap_append

@[simp] theorem heardReplies_append (first second : List Passage) :
    heardReplies (first ++ second) = heardReplies first ++ heardReplies second :=
  List.filterMap_append

theorem history_append (connection : Connection) (first second : List Event) :
    connection.history (first ++ second) =
      connection.history first ++ (connection.run first).history second := by
  induction first generalizing connection with
  | nil => rfl
  | cons event rest ih => simp [history, ih]

/-- The ways in which an event can change a connection, and what passes then. -/
inductive Change (connection : Connection) : Event → List Passage → Connection → Prop where
  | accepted {frame : Request} (hSender : connection.outbox.senderHeld = true)
      (hReceiver : connection.outbox.receiverHeld = true) :
      Change connection (.send frame) [.accepted frame]
        { connection with
          outbox := { connection.outbox with frames := connection.outbox.frames ++ [frame] } }
  | senderGone :
      Change connection .dropSender [] { connection with outbox := connection.outbox.dropSender }
  | repliesGone : Change connection .dropReplies [] { connection with repliesHeld := false }
  | taken {frame : Request} {rest : List Request} (hPhase : connection.phase = .writing)
      (hFrames : connection.outbox.frames = frame :: rest) :
      Change connection .writeNext [.taken frame]
        { connection with
          outbox := { connection.outbox with frames := rest }
          running := runningAfterRequest connection.running frame
          written := connection.written ++ [frame] }
  | waits (hPhase : connection.phase = .writing) (hFrames : connection.outbox.frames = [])
      (hSender : connection.outbox.senderHeld = true) :
      Change connection .writeNext [] { connection with phase := .reading }
  | leaves (hPhase : connection.phase = .writing) (hFrames : connection.outbox.frames = [])
      (hSender : connection.outbox.senderHeld = false) :
      Change connection .writeNext [] { connection with phase := .closing }
  | heard {message : Incoming} {frame : ReplyFrame} (hPhase : connection.phase = .reading)
      (hReply : message.reply? = some frame) :
      Change connection (.read message) [.heard frame] (connection.deliver frame)
  | skipped {message : Incoming} (hPhase : connection.phase = .reading)
      (hReply : message.reply? = none) (hMore : message.isLast = false) :
      Change connection (.read message) [] { connection with phase := .writing }
  | broken {message : Incoming} (hPhase : connection.phase = .reading) (hLast : message.isLast = true) :
      Change connection (.read message) [] { connection with phase := .closing }
  | finished (hPhase : connection.phase = .closing) :
      Change connection .finish [] connection.finish
  | idle {event : Event} : Change connection event [] connection

theorem readMessage_of_reply {connection : Connection} {message : Incoming} {frame : ReplyFrame}
    (hReply : message.reply? = some frame) :
    connection.readMessage message = connection.deliver frame := by
  cases message with
  | text content =>
      cases hDecoded : Wire.decodeText ReplyFrame content with
      | ok decoded =>
          simp only [Incoming.reply?, hDecoded, Except.toOption, Option.some.injEq] at hReply
          simp [readMessage, hDecoded, hReply]
      | error err => simp [Incoming.reply?, hDecoded, Except.toOption] at hReply
  | other | timeout | close | failure => cases hReply

/-- A message that is no reply is dropped. -/
theorem readMessage_of_none {connection : Connection} {message : Incoming}
    (hReply : message.reply? = none) (hMore : message.isLast = false) :
    connection.readMessage message = { connection with phase := .writing } := by
  cases message with
  | text content =>
      cases hDecoded : Wire.decodeText ReplyFrame content with
      | ok decoded => simp [Incoming.reply?, hDecoded, Except.toOption] at hReply
      | error err => simp [readMessage, hDecoded]
  | other | timeout => rfl
  | close | failure => cases hMore

theorem readMessage_of_isLast {connection : Connection} {message : Incoming}
    (hLast : message.isLast = true) :
    connection.readMessage message = { connection with phase := .closing } := by
  cases message with
  | close | failure => rfl
  | text | other | timeout => cases hLast

/-- A message that is read passes on the reply it carries, and nothing else is written or taken. -/
theorem change_read (connection : Connection) (message : Incoming) :
    Change connection (.read message) (connection.passage? (.read message)).toList
      (connection.step (.read message)) := by
  by_cases hPhase : connection.phase = .reading
  · rw [passage?, step, if_pos hPhase, if_pos hPhase]
    cases hReply : message.reply? with
    | some frame =>
        rw [readMessage_of_reply hReply]
        exact .heard hPhase hReply
    | none =>
        cases hLast : message.isLast with
        | true =>
            rw [readMessage_of_isLast hLast]
            exact .broken hPhase hLast
        | false =>
            rw [readMessage_of_none hReply hLast]
            exact .skipped hPhase hReply hLast
  · rw [passage?, step, if_neg hPhase, if_neg hPhase]
    exact .idle

/-- A frame that is taken is written. -/
theorem change_writeNext (connection : Connection) :
    Change connection .writeNext (connection.passage? .writeNext).toList
      (connection.step .writeNext) := by
  by_cases hPhase : connection.phase = .writing
  · rw [passage?, step, if_pos hPhase, if_pos hPhase, writeNext]
    cases hFrames : connection.outbox.frames with
    | cons frame rest => exact .taken hPhase hFrames
    | nil =>
        cases hSender : connection.outbox.senderHeld with
        | true => exact .waits hPhase hFrames hSender
        | false => exact .leaves hPhase hFrames hSender
  · rw [passage?, step, if_neg hPhase, if_neg hPhase]
    exact .idle

/-- The history tells all that an event does to a connection. What is proved of a run is proved
along its passages. -/
theorem change_step (connection : Connection) (event : Event) :
    Change connection event (connection.passage? event).toList (connection.step event) := by
  cases event with
  | send frame =>
      by_cases hOpen : (connection.outbox.senderHeld && connection.outbox.receiverHeld) = true
      · obtain ⟨hSender, hReceiver⟩ := Bool.and_eq_true_iff.mp hOpen
        simp only [passage?, step, Connection.send, Outbox.send, hOpen, if_true]
        exact .accepted hSender hReceiver
      · simp only [passage?, step, Connection.send, Outbox.send, hOpen]
        exact .idle
  | dropSender => exact .senderGone
  | dropReplies => exact .repliesGone
  | writeNext => exact connection.change_writeNext
  | read message => exact connection.change_read message
  | finish =>
      by_cases hPhase : connection.phase = .closing
      · simp only [passage?, step, hPhase, if_true]
        exact .finished hPhase
      · simp only [passage?, step, hPhase, if_false]
        exact .idle

/-- What every change keeps of a connection and its past, every run keeps. -/
theorem run_keeps {motive : List Passage → Connection → Prop} {events : List Event}
    (hKeeps : ∀ event ∈ events, ∀ {past passages connection next},
      Change connection event passages next → motive past connection →
      motive (past ++ passages) next)
    {past : List Passage} {connection : Connection} (hStart : motive past connection) :
    motive (past ++ connection.history events) (connection.run events) := by
  induction events generalizing past connection with
  | nil => simpa [history] using hStart
  | cons event rest ih =>
      obtain ⟨hFirst, hRest⟩ := List.forall_mem_cons.mp hKeeps
      have hNext := ih hRest (hFirst (connection.change_step event) hStart)
      rwa [List.append_assoc] at hNext

end Connection

end RemoteTable
