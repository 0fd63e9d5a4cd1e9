/-!
Operations that a valid input can make impossible to carry out. They are answered by a fault in
place of a value.
-/

namespace RemoteTable

inductive Fault where
  /-- A sum left the range of its word. -/
  | addOverflow
  /-- A position beyond the end of a list. -/
  | indexOutOfBounds (length index : Nat)
deriving DecidableEq

def Fault.message : Fault → String
  | .addOverflow => "attempt to add with overflow"
  | .indexOutOfBounds length index =>
    "index out of bounds: the len is " ++ toString length ++ " but the index is "
      ++ toString index

/-- The sum of two counts below `2 ^ 64`, a fault when it is not below it. -/
def checkedAdd (a b : Nat) : Except Fault Nat :=
  if a + b < Nat.pow 2 64 then .ok (a + b) else .error .addOverflow

/-- The sum of two counts, cut to the largest one below `2 ^ 64`. -/
def saturatingAdd (a b : Nat) : Nat := min (a + b) (Nat.pow 2 64 - 1)

end RemoteTable
