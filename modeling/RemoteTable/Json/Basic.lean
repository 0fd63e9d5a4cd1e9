import RemoteTable.Number.Double

/-!
JSON values. Whole numbers and binary64 numbers are kept apart, since a decoder accepts one where
it refuses the other. The members of an object stand in a list: a record is written in the order
of its fields, while a value of unknown structure has its keys in increasing order.
-/

namespace RemoteTable

/-- A value of a text in JSON. Numbers are whole or floating. -/
inductive Json where
  | null
  | bool (value : Bool)
  | int (value : Int)
  | float (value : Double)
  | string (text : String)
  | array (elements : List Json)
  | object (members : List (String × Json))

namespace Json

mutual

/-- Whether two values are equal, the order of members included. -/
def beq : Json → Json → Bool
  | .null, .null => true
  | .bool a, .bool b => a == b
  | .int a, .int b => a == b
  | .float a, .float b => a == b
  | .string a, .string b => a == b
  | .array a, .array b => beqElements a b
  | .object a, .object b => beqMembers a b
  | _, _ => false

def beqElements : List Json → List Json → Bool
  | [], [] => true
  | a :: as, b :: bs => beq a b && beqElements as bs
  | _, _ => false

def beqMembers : List (String × Json) → List (String × Json) → Bool
  | [], [] => true
  | (k, a) :: as, (l, b) :: bs => k == l && beq a b && beqMembers as bs
  | _, _ => false

end

mutual

theorem beq_iff : (a b : Json) → (beq a b = true ↔ a = b)
  | .null, b => by cases b <;> simp [beq]
  | .bool _, b => by cases b <;> simp [beq]
  | .int _, b => by cases b <;> simp [beq]
  | .float _, b => by cases b <;> simp [beq]
  | .string _, b => by cases b <;> simp [beq]
  | .array a, b => by cases b <;> simp [beq, beqElements_iff a]
  | .object a, b => by cases b <;> simp [beq, beqMembers_iff a]

theorem beqElements_iff : (a b : List Json) → (beqElements a b = true ↔ a = b)
  | [], b => by cases b <;> simp [beqElements]
  | a :: as, b => by cases b <;> simp [beqElements, beq_iff a, beqElements_iff as]

theorem beqMembers_iff : (a b : List (String × Json)) → (beqMembers a b = true ↔ a = b)
  | [], b => by cases b <;> simp [beqMembers]
  | (k, a) :: as, b => by
    cases b with
    | nil => simp [beqMembers]
    | cons m bs => obtain ⟨l, b⟩ := m; simp [beqMembers, beq_iff a, beqMembers_iff as]

end

instance : DecidableEq Json := fun a b => decidable_of_iff _ (beq_iff a b)

/-- Puts a member into a list with increasing keys; an equal key gets the new value. -/
def insertMember (key : String) (value : Json) : List (String × Json) → List (String × Json)
  | [] => [(key, value)]
  | (k, v) :: rest =>
    if key < k then (key, value) :: (k, v) :: rest
    else if key = k then (key, value) :: rest
    else (k, v) :: insertMember key value rest

/-- Members with increasing keys; of equal keys the last one counts. -/
def sortMembers (members : List (String × Json)) : List (String × Json) :=
  members.foldl (fun sorted m => insertMember m.1 m.2 sorted) []

mutual

/-- The value with the keys of all its objects in increasing order. -/
def sorted : Json → Json
  | .array elements => .array (sortedElements elements)
  | .object members => .object (sortMembers (sortedMembers members))
  | .null => .null
  | .bool value => .bool value
  | .int value => .int value
  | .float value => .float value
  | .string text => .string text

def sortedElements : List Json → List Json
  | [] => []
  | e :: rest => sorted e :: sortedElements rest

def sortedMembers : List (String × Json) → List (String × Json)
  | [] => []
  | (key, value) :: rest => (key, sorted value) :: sortedMembers rest

end

/-- The value of a member of an object, none for other values and absent keys. -/
def member? (key : String) : Json → Option Json
  | .object members => members.lookup key
  | _ => none

/-- A binary64 number as a value; infinities and what is no number have no written form. -/
def ofDouble (d : Double) : Json := if d.isFinite then .float d else .null

end Json

end RemoteTable
