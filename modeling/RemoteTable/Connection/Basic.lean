import RemoteTable.Connection.Outbox
import RemoteTable.Protocol.Error

/-!
A connection to the server. Its worker writes all queued frames, then waits for one message of the
server, and so on. When the connection ends, every request the server still owes a terminal reply
for is answered by an error.
-/

namespace RemoteTable

/-- What waiting for a message gives. -/
inductive Incoming where
  | text (text : String)
  /-- A message that is no text. -/
  | other
  | timeout
  | close
  | failure
deriving DecidableEq

/-- What the worker is at. -/
inductive WorkerPhase where
  /-- It writes queued frames. -/
  | writing
  /-- It waits for a message. -/
  | reading
  /-- It has left its loop and has not yet answered the running requests. -/
  | closing
  | ended
deriving DecidableEq

structure Connection where
  outbox : Outbox
  phase : WorkerPhase
  /-- Requests the server owes a terminal reply for, in increasing order. -/
  running : List Nat
  /-- Frames written to the socket. -/
  written : List Request
  /-- Whether somebody still receives the replies. -/
  repliesHeld : Bool
  /-- Replies that have been received. -/
  replies : List ReplyFrame
deriving DecidableEq

namespace Connection

def fresh : Connection := ⟨.fresh, .writing, [], [], true, []⟩

/-- Inserts a number into an increasing list unless it is there. -/
def insertId (id : Nat) : List Nat → List Nat
  | [] => [id]
  | head :: rest =>
    if id < head then id :: head :: rest
    else if id = head then head :: rest
    else head :: insertId id rest

def removeId (id : Nat) (ids : List Nat) : List Nat := ids.filter (· != id)

/-- Running requests after a frame has been taken from the queue. -/
def runningAfterRequest (running : List Nat) (frame : Request) : List Nat :=
  if frame.isCancel then removeId frame.requestId running else insertId frame.requestId running

/-- Running requests after a reply: completion and errors end one. -/
def runningAfterReply (running : List Nat) (frame : ReplyFrame) : List Nat :=
  match frame.reply with
  | .completed | .error _ => removeId frame.requestId running
  | .next _ | .cancelled => running

/-- Queues a frame for the worker; false when the connection has ended. -/
def send (connection : Connection) (frame : Request) : Bool × Connection :=
  let (accepted, outbox) := connection.outbox.send frame
  (accepted, { connection with outbox := outbox })

/-- The writing worker takes the next frame and writes it. Without one it waits for a message, or
leaves its loop if none can come. -/
def writeNext (connection : Connection) : Connection :=
  match connection.outbox.frames with
  | frame :: rest =>
    { connection with
      outbox := { connection.outbox with frames := rest }
      running := runningAfterRequest connection.running frame
      written := connection.written ++ [frame] }
  | [] =>
    { connection with phase := if connection.outbox.senderHeld then .reading else .closing }

/-- The worker passes a reply on. It leaves its loop if nobody receives it. -/
def deliver (connection : Connection) (frame : ReplyFrame) : Connection :=
  let running := runningAfterReply connection.running frame
  if connection.repliesHeld then
    { connection with
      running := running, phase := .writing, replies := connection.replies ++ [frame] }
  else { connection with running := running, phase := .closing }

/-- The reading worker sees a message. Texts that are no replies are dropped. -/
def readMessage (connection : Connection) : Incoming → Connection
  | .text text =>
    match Wire.decodeText ReplyFrame text with
    | .ok frame => connection.deliver frame
    | .error _ => { connection with phase := .writing }
  | .other | .timeout => { connection with phase := .writing }
  | .close | .failure => { connection with phase := .closing }

/-- The reply to a request that was running when the connection ended. -/
def closedReply (requestId : Nat) : ReplyFrame :=
  ⟨requestId, .error ClientError.connectionClosed.message⟩

/-- The closing worker answers the running requests and goes; frames still queued are lost. -/
def finish (connection : Connection) : Connection :=
  let errors := if connection.repliesHeld then connection.running.map closedReply else []
  { connection with
    phase := .ended, running := [], outbox := connection.outbox.dropReceiver
    replies := connection.replies ++ errors }

/-- What can happen to a connection. -/
inductive Event where
  | send (frame : Request)
  | dropSender
  | dropReplies
  | writeNext
  | read (message : Incoming)
  | finish

/-- One event. Those of the worker need it to be at them. -/
def step (connection : Connection) : Event → Connection
  | .send frame => (connection.send frame).2
  | .dropSender => { connection with outbox := connection.outbox.dropSender }
  | .dropReplies => { connection with repliesHeld := false }
  | .writeNext => if connection.phase = .writing then connection.writeNext else connection
  | .read message =>
    if connection.phase = .reading then connection.readMessage message else connection
  | .finish => if connection.phase = .closing then connection.finish else connection

def run (connection : Connection) (events : List Event) : Connection :=
  events.foldl step connection

def isAlive (connection : Connection) : Bool := connection.phase != .ended

/-- The worker goes on until it waits for a message or has ended. -/
def settle (connection : Connection) : Connection :=
  let turns := List.replicate (connection.outbox.frames.length + 1) Event.writeNext
  connection.run (turns ++ [.finish])

/-- A message arrives while the worker waits for one. -/
def receive (connection : Connection) (message : Incoming) : Connection :=
  (connection.step (.read message)).settle

/-- A waiting worker looks at the queue when no message comes for a while. -/
def wake (connection : Connection) : Connection := connection.receive .timeout

end Connection

end RemoteTable
