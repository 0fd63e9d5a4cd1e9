import RemoteTable.Protocol.Frame
import RemoteTable.Session.Progress
import RemoteTable.Table.Snapshot

/-!
Receivers of the values of one request, and the consumers they pass the values on to. A receiver works
for consumers of any type. Those of the program are data: what kind of values they expect, what they have
collected so far, and which view they belong to.
-/

namespace RemoteTable

/-- A decoded value of a request of the program. -/
inductive Payload where
  | number (value : UInt64)
  | json (value : Json)
  | statistics (value : ColumnStatistics)
  | snapshot (value : Snapshot)
  | objectId (value : Option ObjectId)
deriving DecidableEq

def Payload.encode : Payload → Json
  | .number value => Wire.encode value
  | .json value => value
  | .statistics value => Wire.encode value
  | .snapshot value => Wire.encode value
  | .objectId value => Wire.encode value

/-- Values of type `α` travel as they are, and become payloads when they are decoded. -/
@[reducible] def Payload.wire {α : Type} [Wire α] (make : α → Payload) : Wire Payload where
  encode := Payload.encode
  decode value := (Wire.decode value : Except Wire.DecodeError α).map make
  shape := Wire.shape α
  absent := (Wire.absent : Option α).map make

/-- What the values of a request decode as. -/
inductive PayloadKind where
  | number
  | json
  | statistics
  | snapshot
  | objectId
deriving DecidableEq

@[reducible] def PayloadKind.wire : PayloadKind → Wire Payload
  | .number => Payload.wire Payload.number
  | .json => Payload.wire Payload.json
  | .statistics => Payload.wire Payload.statistics
  | .snapshot => Payload.wire Payload.snapshot
  | .objectId => Payload.wire Payload.objectId

/-- What a consumer of values of type `α` is told. -/
inductive Told (α : Type) where
  | next (value : α)
  | completed
deriving DecidableEq

/-- What an observer of the program is told. -/
abbrev Observation := Told Payload

/-- The values of type `α` that a consumer waits for. -/
structure Expected (α : Type) where
  /-- Whether values come with the fraction of the work done. -/
  streamed : Bool
  wire : Wire α
  /-- What the page keeps in its journal of what the consumer is told. -/
  noted : Told α → List Observation

/-- Decodes a value, with the fraction of the work done if it comes with one. -/
def Expected.decode {α : Type} (expected : Expected α) (value : Json) :
    Except Wire.DecodeError (Option Double × α) :=
  letI := expected.wire
  if expected.streamed then
    (Wire.decode value : Except Wire.DecodeError (Streamed α)).map fun streamed =>
      (some streamed.done, streamed.data)
  else (Wire.decode value : Except Wire.DecodeError α).map fun data => (none, data)

/-- The observers of the program. -/
inductive Observer where
  /-- Waits for the set of input files and then loads a table from it. -/
  | fileSet (files : Option ObjectId)
  /-- Waits for a table and then shows it. -/
  | tableLoader (table : Option ObjectId)
  /-- Shows every snapshot in the view it was asked for. -/
  | renderer (serial generation : Nat)
  /-- Shows the last statistics of a column when the request is complete. -/
  | rangeCollector (serial : Nat) (column : Column) (statistics : Option ColumnStatistics)
  /-- Only takes notice of values. -/
  | recorder (kind : PayloadKind) (streamed : Bool) (description : String := "Recording")
deriving DecidableEq

namespace Observer

/-- Shown next to the progress bar of the request. -/
def description : Observer → String
  | fileSet _ => "Find files"
  | tableLoader _ => "Get schema"
  | renderer _ _ => "Getting table info"
  | rangeCollector _ _ _ => "Computing range"
  | recorder _ _ description => description

def payloadKind : Observer → PayloadKind
  | fileSet _ | tableLoader _ => .objectId
  | renderer _ _ => .snapshot
  | rangeCollector _ _ _ => .statistics
  | recorder kind _ _ => kind

/-- Whether values come with the fraction of the work done; only the set of files does not. -/
def isStreamed : Observer → Bool
  | fileSet _ => false
  | tableLoader _ | renderer _ _ | rangeCollector _ _ _ => true
  | recorder _ streamed _ => streamed

/-- Everything an observer of the program is told stands in the journal. -/
def expected (observer : Observer) : Expected Payload :=
  ⟨observer.isStreamed, observer.payloadKind.wire, fun told => [told]⟩

/-- Decodes a value the observer waits for, with the fraction of the work done if it has one. -/
def decode (observer : Observer) (value : Json) :
    Except Wire.DecodeError (Option Double × Payload) := observer.expected.decode value

/-- What the observer has collected after one more value. A missing identifier is no value. -/
def collect : Observer → Payload → Observer
  | fileSet _, .objectId (some id) => fileSet (some id)
  | tableLoader _, .objectId (some id) => tableLoader (some id)
  | rangeCollector serial column _, .statistics value => rangeCollector serial column (some value)
  | observer, _ => observer

end Observer

/-- A consumer of the values of one request together with the progress bar of the request. A finished
receiver ignores all replies. -/
structure Receiver (σ : Type := Observer) where
  requestId : Nat
  bar : Nat
  finished : Bool
  observer : σ
deriving DecidableEq

end RemoteTable
