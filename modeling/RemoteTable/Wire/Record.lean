import RemoteTable.Wire.Basic

/-!
Records with named fields. One description of a record gives its written form, and how it is read
from an object, whose members may stand in any order, or from an array of its fields.
-/

namespace RemoteTable.Wire

/-- A record `ρ` of which the fields described so far determine an `α`. While the members of an
object are visited, `Slots` holds the fields found. -/
structure Record (ρ α : Type) where
  Slots : Type
  start : Slots
  /-- Takes a member if its name is that of a field. -/
  put : String → Json → Slots → Except DecodeError Slots
  finish : Slots → Except DecodeError α
  /-- Reads the fields from the front of an array; none if it is too short. -/
  take : List Json → Except DecodeError (Option (α × List Json))
  write : ρ → List (String × Json)
  shapes : List (String × Bool × Bool × Json.Shape)

namespace Record

/-- The record without fields. -/
def of {ρ α : Type} (value : α) : Record ρ α where
  Slots := Unit
  start := ()
  put _ _ slots := .ok slots
  finish _ := .ok value
  take elements := .ok (some (value, elements))
  write _ := []
  shapes := []

/-- One more field: what it is when an object lacks it and when an array ends in front of it. -/
def fieldOr {ρ α β : Type} [Wire β] (record : Record ρ (β → α)) (name : String) (get : ρ → β)
    (absent short : Option β) : Record ρ α where
  Slots := record.Slots × Option β
  start := (record.start, none)
  put key value slots :=
    if key = name then (decode value).map fun field => (slots.1, some field)
    else (record.put key value slots.1).map fun others => (others, slots.2)
  finish slots := do
    let build ← record.finish slots.1
    match slots.2.or absent with
    | some field => return build field
    | none => throw (.missingField name)
  take elements := do
    match ← record.take elements with
    | none => return none
    | some (build, []) => return short.map fun field => (build field, [])
    | some (build, value :: rest) => return some (build (← decode value), rest)
  write source := record.write source ++ [(name, encode (get source))]
  shapes := record.shapes ++ [(name, absent.isSome, short.isSome, shape β)]

/-- One more field. -/
def field {ρ α β : Type} [Wire β] (record : Record ρ (β → α)) (name : String) (get : ρ → β) :
    Record ρ α :=
  record.fieldOr name get absent none

/-- One more field that has a value when it is left out. -/
def optional {ρ α β : Type} [Wire β] (record : Record ρ (β → α)) (name : String) (get : ρ → β)
    (value : β) : Record ρ α :=
  record.fieldOr name get (some value) (some value)

/-- Visits the members of an object in their order. -/
def putAll {ρ α : Type} (record : Record ρ α) :
    List (String × Json) → record.Slots → Except DecodeError record.Slots
  | [], slots => .ok slots
  | (key, value) :: rest, slots =>
    match record.put key value slots with
    | .error err => .error err
    | .ok slots => record.putAll rest slots

/-- How many fields a record called `name` has. -/
def described {ρ α : Type} (record : Record ρ α) (name : String) : String :=
  "struct " ++ name ++ " with " ++ counted record.shapes.length "element"

/-- Decodes a record called `name` from an object or an array. -/
def decode {ρ α : Type} (record : Record ρ α) (name : String) : Json → Except DecodeError α
  | .object members => do
    let slots ← record.putAll members record.start
    record.finish slots
  | .array elements => do
    match ← record.take elements with
    | some (value, []) => return value
    | some (_, _ :: _) =>
      throw (.invalidLength elements.length "fewer elements in array")
    | none => throw (.invalidLength elements.length (record.described name))
  | other => .error (wrongType other ("struct " ++ name))

/-- The wire form of a record called `name`. -/
@[reducible] def wire {ρ : Type} (record : Record ρ ρ) (name : String) : Wire ρ where
  encode value := .object (record.write value)
  decode := record.decode name
  shape := .record record.shapes

end Record

end RemoteTable.Wire
