import RemoteTable.Wire.Record

/-!
Frames exchanged with the server. A request names an object and a method; it is answered by any
number of values and one terminal reply.
-/

namespace RemoteTable

/-- Identifier the server gave to one of its objects. -/
structure ObjectId where
  text : String
deriving DecidableEq

instance : Wire ObjectId where
  encode id := Wire.encode id.text
  decode value := (Wire.decode value).map ObjectId.mk
  shape := Wire.shape String

/-- A natural number travels as an unsigned 64-bit word. -/
instance : Wire Nat where
  encode value := .int value
  decode := Wire.decodeUnsigned 64 "u64"
  shape := .unsigned 64

/-- A frame that asks for a call of a method of an object. -/
structure Request where
  requestId : Nat
  objectId : ObjectId
  method : String
  arguments : Json
deriving DecidableEq

instance : Wire Request :=
  Wire.Record.of Request.mk
    |>.field "requestId" Request.requestId
    |>.field "objectId" Request.objectId
    |>.field "method" Request.method
    |>.field "arguments" Request.arguments
    |>.wire "RequestFrame"

namespace Request

def cancelMethod : String := "cancel"

/-- Asks the server to give up a request. -/
def cancellation (requestId : Nat) (objectId : ObjectId) : Request :=
  ⟨requestId, objectId, cancelMethod, .null⟩

def isCancel (request : Request) : Bool := request.method == cancelMethod

end Request

/-- A value together with the fraction of the work done so far. -/
structure Streamed (α : Type) where
  done : Double
  data : α
deriving DecidableEq

instance {α : Type} [Wire α] : Wire (Streamed α) :=
  Wire.Record.of Streamed.mk
    |>.field "done" Streamed.done
    |>.field "data" Streamed.data
    |>.wire "PartialResult"

/-- What comes of a request. -/
inductive Reply where
  | next (result : Json)
  | error (message : String)
  | completed
  /-- Made by the client itself when it gives up a request. -/
  | cancelled
deriving DecidableEq

/-- A reply and the request it answers. -/
structure ReplyFrame where
  requestId : Nat
  reply : Reply
deriving DecidableEq

namespace Reply

open Wire

inductive Kind where
  | next
  | error
  | completed
  | cancelled
deriving DecidableEq

namespace Kind

def all : List Kind := [next, error, completed, cancelled]

def name : Kind → String
  | next => "next"
  | error => "error"
  | completed => "completed"
  | cancelled => "cancelled"

/-- The kind of a reply by its name. -/
def decode : Json → Except DecodeError Kind
  | .string name =>
    match all.find? (·.name == name) with
    | some kind => .ok kind
    | none => .error (.unknownVariant name (all.map Kind.name))
  | other => .error (wrongType other "variant identifier")

/-- The kind of a reply by its name or its place among the kinds. -/
def decodeIndexed : Json → Except DecodeError Kind
  | .int index =>
    if index < 0 then .error (wrongType (.int index) "variant identifier")
    else match all[index.toNat]? with
      | some kind => .ok kind
      | none => .error (.invalidValue (.int index) "variant index 0 <= i < 4")
  | other => decode other

end Kind

def tag : String := "type"

def kind : Reply → Kind
  | next _ => .next
  | error _ => .error
  | completed => .completed
  | cancelled => .cancelled

/-- The only member with a name. -/
def soleMember {α : Type} (read : Json → Except DecodeError α) (name : String)
    (members : List (String × Json)) : Except DecodeError α :=
  match members.filter (·.1 == name) with
  | [] => .error (.missingField name)
  | (_, value) :: others =>
    match read value with
    | .error err => .error err
    | .ok result => if others.isEmpty then .ok result else .error (.duplicateField name)

/-- The reply of a kind whose content stands among the members of an object. -/
def ofMembers (kind : Kind) (members : List (String × Json)) : Except DecodeError Reply :=
  match kind with
  | .next => (soleMember decode "result" members).map Reply.next
  | .error => (soleMember decode "message" members).map Reply.error
  | .completed => .ok completed
  | .cancelled => .ok cancelled

/-- The only element behind the kind of a reply called `variant`. -/
def soleElement {α : Type} [Wire α] (variant : String) (elements : List Json) :
    Except DecodeError α :=
  match elements with
  | [] =>
    .error (.invalidLength 0 ("struct variant Reply::" ++ variant ++ " with 1 element"))
  | value :: others =>
    match (decode value : Except DecodeError α) with
    | .error err => .error err
    | .ok result =>
      if others.isEmpty then .ok result
      else .error (.invalidLength elements.length "1 element in sequence")

/-- The reply of a kind whose content stands behind it in an array. -/
def ofElements (kind : Kind) (elements : List Json) : Except DecodeError Reply :=
  let bare := fun reply => if elements.isEmpty then Except.ok reply
    else Except.error (.invalidLength elements.length "0 elements in sequence")
  match kind with
  | .next => (soleElement "Next" elements).map Reply.next
  | .error => (soleElement "Error" elements).map Reply.error
  | .completed => bare completed
  | .cancelled => bare cancelled

/-- The members of a written reply. -/
def members : Reply → List (String × Json)
  | next result => [(tag, .string "next"), ("result", result)]
  | error message => [(tag, .string "error"), ("message", .string message)]
  | completed => [(tag, .string "completed")]
  | cancelled => [(tag, .string "cancelled")]

/-- A reply is an object with its kind as the member `type`, or an array that starts with it. -/
instance : Wire Reply where
  encode reply := .object reply.members
  decode
    | .object members => do
      let kind ← soleMember Kind.decode tag members
      ofMembers kind members
    | .array [] => .error (.missingField tag)
    | .array (first :: others) => do
      let kind ← Kind.decode first
      ofElements kind others
    | other => .error (wrongType other "internally tagged enum Reply")
  shape := .tagged tag (Kind.all.map Kind.name)

end Reply

namespace ReplyFrame

open Wire

/-- A reply frame is one object that holds the request id and the members of the reply. Members
of the reply are looked at when the object has ended. -/
instance : Wire ReplyFrame where
  encode frame := .object (("requestId", encode frame.requestId) :: frame.reply.members)
  decode
    | .object members => do
      let requestId ← Reply.soleMember decode "requestId" members
      let kind ← Reply.soleMember Reply.Kind.decodeIndexed Reply.tag members
      let reply ← Reply.ofMembers kind members
      return ⟨requestId, reply⟩
    | other => .error (wrongType other "struct ReplyFrame")
  shape := .members [("requestId", .unsigned 64)]

end ReplyFrame

end RemoteTable
