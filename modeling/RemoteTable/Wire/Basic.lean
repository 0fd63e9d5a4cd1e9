import RemoteTable.Json.Shape
import RemoteTable.Wire.Error

/-!
Types that travel as JSON. Each has an encoding, a decoding of values, and a shape by which a text
is read.
-/

namespace RemoteTable

open Wire

/-- A type that travels as JSON. -/
class Wire (α : Type) where
  encode : α → Json
  decode : Json → Except DecodeError α
  shape : Json.Shape
  /-- What a missing field of this type stands for, if it may be missing. -/
  absent : Option α := none

namespace Wire

/-- Decodes a whole text. What does not fit the type is a mismatch, and so is a value that fits
its shape but does not decode; that is found before anything behind the value is looked at. -/
def decodeText (α : Type) [Wire α] (text : String) : Except Json.ReadFailure α := do
  let (value, rest) ← (shape α).read text.toList
  match (decode value : Except DecodeError α) with
  | .error _ => throw .mismatch
  | .ok result =>
    Json.readEnd rest
    return result

/-- The compact text of an encoding. -/
def encodeText {α : Type} [Wire α] (value : α) : String := (encode value).text

/-- Decodes the elements of an array from left to right. -/
def decodeElements {α : Type} [Wire α] : List Json → Except DecodeError (List α)
  | [] => .ok []
  | e :: rest =>
    match decode e with
    | .error err => .error err
    | .ok value => (decodeElements rest).map (value :: ·)

/-- A whole number below `2 ^ bits`. -/
def decodeUnsigned (bits : Nat) (expected : String) : Json → Except DecodeError Nat
  | .int value =>
    if 0 ≤ value ∧ value < Nat.pow 2 bits then .ok value.toNat
    else .error (.invalidValue (.int value) expected)
  | other => .error (wrongType other expected)

instance : Wire Json where
  encode := id
  decode := .ok
  shape := .any

instance : Wire Bool where
  encode := .bool
  decode
    | .bool value => .ok value
    | other => .error (wrongType other "a boolean")
  shape := .bool

instance : Wire String where
  encode := .string
  decode
    | .string text => .ok text
    | other => .error (wrongType other "a string")
  shape := .string

instance : Wire UInt64 where
  encode value := .int value.toNat
  decode value := (decodeUnsigned 64 "u64" value).map UInt64.ofNat
  shape := .unsigned 64

instance : Wire UInt32 where
  encode value := .int value.toNat
  decode value := (decodeUnsigned 32 "u32" value).map UInt32.ofNat
  shape := .unsigned 32

/-- Whole numbers are read as the nearest binary64 number. -/
instance : Wire Double where
  encode := Json.ofDouble
  decode
    | .int value => .ok (Double.ofInt value)
    | .float value => .ok value
    | other => .error (wrongType other "f64")
  shape := .double

/-- An absent value is written as null, and may be left out. -/
instance {α : Type} [Wire α] : Wire (Option α) where
  encode
    | none => .null
    | some value => encode value
  decode
    | .null => .ok none
    | value => (decode value).map some
  shape := .option (shape α)
  absent := some none

instance {α : Type} [Wire α] : Wire (List α) where
  encode values := .array (values.map encode)
  decode
    | .array elements => decodeElements elements
    | other => .error (wrongType other "a sequence")
  shape := .list (shape α)

end Wire

end RemoteTable
