import RemoteTable.Protocol.Error
import RemoteTable.Session.Observer

/-!
A session with the server: requests that wait for replies, replies that wait to be handled, and
the frames handed to the transport so far.
-/

namespace RemoteTable

/-- A frame handed to the transport, and whether the transport took it. -/
structure Attempt where
  frame : Request
  accepted : Bool
deriving DecidableEq

/-- A request that has not reached its terminal reply. -/
structure Pending where
  objectId : ObjectId
  receiver : Receiver
deriving DecidableEq

/-- Returned for a request that was issued; used to cancel it. -/
structure RequestHandle where
  requestId : Nat
  objectId : ObjectId
deriving DecidableEq

/-- A request that has no number yet. -/
structure Call where
  objectId : ObjectId
  method : String
  arguments : Json
deriving DecidableEq

/-- A call with arguments of any type that travels as JSON; the keys of objects are sorted. -/
def Call.of {α : Type} [Wire α] (objectId : ObjectId) (method : String) (arguments : α) : Call :=
  ⟨objectId, method, (Wire.encode arguments).sorted⟩

/-- A call without arguments. -/
def Call.bare (objectId : ObjectId) (method : String) : Call := ⟨objectId, method, .null⟩

structure Session where
  /-- Which of the frames handed to the transport it takes, by their place. -/
  accepts : Nat → Bool
  attempts : List Attempt
  /-- Replies of the server and of the client itself that have not been handled. -/
  queue : List ReplyFrame
  pending : List (Nat × Pending)
  nextRequestId : Nat
  progress : Progress
  lastError : Option String

namespace Session

/-- A session over a transport that takes every frame. -/
def fresh : Session := ⟨fun _ => true, [], [], [], 1, Progress.empty, none⟩

def setAccepts (session : Session) (accepts : Nat → Bool) : Session :=
  { session with accepts := accepts }

/-- Puts a reply at the end of the queue. -/
def enqueue (session : Session) (requestId : Nat) (reply : Reply) : Session :=
  { session with queue := session.queue ++ [⟨requestId, reply⟩] }

def reportError (session : Session) (message : String) : Session :=
  { session with lastError := some message }

/-- Hands a frame to the transport and tells whether the transport took it. -/
def transmit (session : Session) (frame : Request) : Bool × Session :=
  let accepted := session.accepts session.attempts.length
  (accepted, { session with attempts := session.attempts ++ [⟨frame, accepted⟩] })

def pending? (session : Session) (requestId : Nat) : Option Pending :=
  session.pending.lookup requestId

/-- Enters a request among those that wait for replies. -/
def register (session : Session) (requestId : Nat) (pending : Pending) : Session :=
  { session with pending := session.pending ++ [(requestId, pending)] }

def unregister (session : Session) (requestId : Nat) : Session :=
  { session with pending := session.pending.eraseP (·.1 == requestId) }

/-- Issues a request. If it cannot be sent, its receiver will see an error. -/
def invoke (session : Session) (call : Call) (observer : Observer) : RequestHandle × Session :=
  let id := session.nextRequestId
  let (bar, progress) := session.progress.add id observer.description
  let session := { session with nextRequestId := id + 1, progress := progress }
  let session := session.register id ⟨call.objectId, ⟨id, bar, false, observer⟩⟩
  let (accepted, session) := session.transmit ⟨id, call.objectId, call.method, call.arguments⟩
  let session := if accepted then session
    else session.enqueue id (.error ClientError.connectionClosed.message)
  (⟨id, call.objectId⟩, session)

/-- Gives up a request; false if it has already ended. The receiver sees a terminal reply even
if the server cannot be told. -/
def cancel (session : Session) (requestId : Nat) : Bool × Session :=
  match session.pending? requestId with
  | none => (false, session)
  | some pending =>
    let session := (session.transmit (.cancellation requestId pending.objectId)).2
    (true, session.enqueue requestId .cancelled)

/-- Gives up several requests and counts those that had not ended. -/
def cancelEach (session : Session) : List Nat → Nat × Session
  | [] => (0, session)
  | id :: rest =>
    let (running, session) := session.cancel id
    let (count, session) := session.cancelEach rest
    ((if running then count + 1 else count), session)

/-- Gives up every request that shows a progress bar. -/
def cancelAll (session : Session) : Nat × Session :=
  session.cancelEach (session.progress.bars.map (·.requestId))

end Session

end RemoteTable
