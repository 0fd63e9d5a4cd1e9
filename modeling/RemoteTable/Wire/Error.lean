import RemoteTable.Json.Printer
import RemoteTable.Text.Literal

/-!
Why a JSON value does not decode, and the wording of it.
-/

namespace RemoteTable.Wire

/-- What stands in place of an expected value. -/
inductive Found where
  | null
  | bool (value : Bool)
  | int (value : Int)
  | float (value : Double)
  | string (text : String)
  | sequence
  | map
deriving DecidableEq

inductive DecodeError where
  /-- A value of another kind. -/
  | invalidType (found : Found) (expected : String)
  /-- A value of the right kind outside the accepted ones. -/
  | invalidValue (found : Found) (expected : String)
  /-- An array with too many or too few elements. -/
  | invalidLength (length : Nat) (expected : String)
  | missingField (name : String)
  | duplicateField (name : String)
  | unknownVariant (name : String) (known : List String)
deriving DecidableEq

def Found.ofJson : Json → Found
  | .null => .null
  | .bool value => .bool value
  | .int value => .int value
  | .float value => .float value
  | .string text => .string text
  | .array _ => .sequence
  | .object _ => .map

def backquoted (text : String) : String := "`" ++ text ++ "`"

def Found.text : Found → String
  | .null => "null"
  | .bool value => "boolean " ++ backquoted (toString value)
  | .int value => "integer " ++ backquoted (toString value)
  | .float value => "floating point " ++ backquoted (String.ofList (Json.floatText value))
  | .string text => "string " ++ Text.literal text
  | .sequence => "sequence"
  | .map => "map"

def DecodeError.message : DecodeError → String
  | .invalidType found expected => "invalid type: " ++ found.text ++ ", expected " ++ expected
  | .invalidValue found expected => "invalid value: " ++ found.text ++ ", expected " ++ expected
  | .invalidLength length expected =>
    "invalid length " ++ toString length ++ ", expected " ++ expected
  | .missingField name => "missing field " ++ backquoted name
  | .duplicateField name => "duplicate field " ++ backquoted name
  | .unknownVariant name known =>
    "unknown variant " ++ backquoted name ++ ", expected one of "
      ++ ", ".intercalate (known.map backquoted)

/-- The error for a value of another kind than the expected one. -/
def wrongType (value : Json) (expected : String) : DecodeError :=
  .invalidType (.ofJson value) expected

/-- A count of things, with their name in the plural unless there is one. -/
def counted (n : Nat) (noun : String) : String :=
  toString n ++ " " ++ noun ++ (if n = 1 then "" else "s")

end RemoteTable.Wire
