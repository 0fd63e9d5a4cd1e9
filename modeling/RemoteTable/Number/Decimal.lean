import RemoteTable.Number.Double

/-!
Decimal texts of exact fractions: with a fixed number of places, in scientific form, and with
the fewest digits that still name a given binary64 number.
-/

namespace RemoteTable

/-- Decimal digits `d₀d₁d₂…` of a positive number `d₀.d₁d₂… * 10 ^ exponent`. -/
structure Scientific where
  digits : List Char
  exponent : Int
deriving DecidableEq

namespace Decimal

def digits (n : Nat) : List Char := Nat.toDigits 10 n

/-- The digits of `n`, filled up with zeros on the left to at least `width`. -/
def padded (width n : Nat) : List Char :=
  List.replicate (width - (digits n).length) '0' ++ digits n

/-- `num / den` with exactly `places` digits behind the point, the exact value rounded once. -/
def fixed (num den places : Nat) : List Char :=
  let q := Double.roundedQuotient (num * Nat.pow 10 places) den
  if places = 0 then digits q
  else digits (q / Nat.pow 10 places) ++ '.' :: padded places (q % Nat.pow 10 places)

/-- How often `num` has to be multiplied by ten to reach `den`, tried at most `fuel` times. -/
def tensToReach : Nat → Nat → Nat → Nat
  | 0, _, _ => 0
  | fuel + 1, num, den => if den ≤ num then 0 else tensToReach fuel (num * 10) den + 1

/-- The power of ten of the first digit of `num / den`. -/
def leadingExponent (num den : Nat) : Int :=
  if den ≤ num then (digits (num / den)).length - 1
  else -(tensToReach (digits den).length num den : Int)

/-- The fraction `num / den * 10 ^ power`. -/
def shifted (num den : Nat) (power : Int) : Nat × Nat :=
  if 0 ≤ power then (num * Nat.pow 10 power.toNat, den) else (num, den * Nat.pow 10 (-power).toNat)

/-- `num / den` rounded to `places` digits behind the first one. -/
def scientific (num den places : Nat) : Scientific :=
  let exponent := leadingExponent num den
  let (n, d) := shifted num den (places - exponent)
  let q := Double.roundedQuotient n d
  if q = Nat.pow 10 (places + 1) then ⟨digits (Nat.pow 10 places), exponent + 1⟩
  else ⟨digits q, exponent⟩

end Decimal

/-- The digits with a point behind the first one, if others follow. -/
def Scientific.mantissa (s : Scientific) : List Char :=
  match s.digits with
  | [] => []
  | [d] => [d]
  | d :: rest => d :: '.' :: rest

namespace Double

/-- `d` with `places` digits behind the point; the sign is kept, also that of zero. -/
def fixedText (d : Double) (places : Nat) : String :=
  let sign := if d.negative then ['-'] else []
  if d.isNaN then "NaN"
  else if d.isFinite then String.ofList (sign ++ Decimal.fixed d.units unitsPerOne places)
  else String.ofList (sign ++ ['i', 'n', 'f'])

/-- A nonzero finite number with `places` digits behind its first one; only a negative exponent
has a sign. -/
def scientificText (d : Double) (places : Nat) : String :=
  let sign := if d.negative then ['-'] else []
  let s := Decimal.scientific d.units unitsPerOne places
  String.ofList (sign ++ s.mantissa ++ 'e' :: (toString s.exponent).toList)

/-- The numbers that round to `d` lie between these bounds, in quarters of the smallest unit. -/
def roundingInterval (d : Double) : Nat × Nat :=
  let step := Nat.pow 2 d.spacing
  let down := if d.significand = Nat.pow 2 52 ∧ 0 < d.spacing then step else 2 * step
  (4 * d.units - down, 4 * d.units + 2 * step)

/-- The multiple of `10 ^ power` that rounds to `d`, as a number of steps: the nearest one if
there are several, the even one if two are equally near. The bounds of the rounding interval
belong to it when the significand is even. -/
def gridPoint? (d : Double) (power : Int) : Option Nat :=
  let (low, high) := d.roundingInterval
  let (scale, grid) := Decimal.shifted 1 (4 * unitsPerOne) (-power)
  let inside := fun n : Nat =>
    if d.significand % 2 = 0 then decide (low * scale ≤ n * grid ∧ n * grid ≤ high * scale)
    else decide (low * scale < n * grid ∧ n * grid < high * scale)
  let value := 4 * d.units * scale
  let lower := value / grid
  let toLower := value - lower * grid
  let toUpper := (lower + 1) * grid - value
  if inside lower && inside (lower + 1) then
    if toLower < toUpper ∨ (toLower = toUpper ∧ lower % 2 = 0) then some lower
    else some (lower + 1)
  else if inside lower then some lower
  else if inside (lower + 1) then some (lower + 1)
  else none

/-- The fewest digits, from `count` on, whose number rounds to `d`. -/
def shortestFrom (d : Double) (exponent : Int) : Nat → Nat → Scientific
  | 0, _ => Decimal.scientific d.units unitsPerOne 16
  | fuel + 1, count =>
    match d.gridPoint? (exponent - count) with
    | some n =>
      if n = Nat.pow 10 (count + 1) then ⟨Decimal.digits (Nat.pow 10 count), exponent + 1⟩
      else ⟨Decimal.digits n, exponent⟩
    | none => shortestFrom d exponent fuel (count + 1)

/-- The fewest decimal digits that name a nonzero finite number; seventeen always do. -/
def shortest (d : Double) : Scientific :=
  shortestFrom d (Decimal.leadingExponent d.units unitsPerOne) 17 0

end Double

end RemoteTable
