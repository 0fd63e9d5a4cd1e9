import RemoteTable.Protocol.Frame

/-!
The queue of outgoing frames between the sender and the worker that writes them. Either end may
be dropped. Frames queued before the sender went can still be taken.
-/

namespace RemoteTable

structure Outbox where
  frames : List Request
  senderHeld : Bool
  receiverHeld : Bool
deriving DecidableEq

namespace Outbox

def fresh : Outbox := ⟨[], true, true⟩

/-- Queues a frame; false if one of the ends is gone. -/
def send (outbox : Outbox) (frame : Request) : Bool × Outbox :=
  if outbox.senderHeld && outbox.receiverHeld then
    (true, { outbox with frames := outbox.frames ++ [frame] })
  else (false, outbox)

/-- Takes everything that is queued, in order. -/
def takeAll (outbox : Outbox) : List Request × Outbox :=
  (outbox.frames, { outbox with frames := [] })

def dropSender (outbox : Outbox) : Outbox := { outbox with senderHeld := false }

/-- Drops the receiving end; frames in the queue are lost. -/
def dropReceiver (outbox : Outbox) : Outbox := { outbox with frames := [], receiverHeld := false }

end Outbox

end RemoteTable
