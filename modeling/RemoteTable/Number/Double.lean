/-!
Binary64 numbers as exact data. Every finite number is a whole multiple of one smallest unit,
so each operation is stated on natural numbers and rounded once, to the nearest number with a
half going to the even neighbour.
-/

namespace RemoteTable

/-- A binary64 number: its sign, and the place of its magnitude in the increasing row of all
magnitudes. Zero has rank 0, infinity follows the finite magnitudes, and the ranks beyond it
stand for no number. -/
structure Double where
  negative : Bool
  rank : Fin (Nat.pow 2 63)
deriving DecidableEq

namespace Double

/-- How many smallest units make one. -/
def unitsPerOne : Nat := Nat.pow 2 1074

/-- The rank of infinity. -/
def infiniteRank : Nat := 2047 * Nat.pow 2 52

/-- The number with a given sign and rank; ranks beyond infinity are cut to it. -/
def ofRank (negative : Bool) (rank : Nat) : Double :=
  ⟨negative, min rank infiniteRank, Nat.lt_of_le_of_lt (Nat.min_le_right ..) (by decide)⟩

def zero : Double := ofRank false 0

def infinite (negative : Bool) : Double := ofRank negative infiniteRank

/-- A quiet value that is no number. -/
def notANumber : Double := ⟨false, infiniteRank + Nat.pow 2 51, by decide⟩

def isNaN (d : Double) : Bool := infiniteRank < d.rank.val

def isFinite (d : Double) : Bool := d.rank.val < infiniteRank

def isZero (d : Double) : Bool := d.rank.val == 0

/-- The 64 bits of the interchange format, read as a natural number. -/
def toBits (d : Double) : Nat := (if d.negative then Nat.pow 2 63 else 0) + d.rank.val

def ofBits (bits : UInt64) : Double :=
  ⟨Nat.pow 2 63 ≤ bits.toNat, bits.toNat % Nat.pow 2 63, Nat.mod_lt _ (by decide)⟩

/-- Neighbouring magnitudes around `d` differ by two to this power, in smallest units. -/
def spacing (d : Double) : Nat := d.rank.val / Nat.pow 2 52 - 1

/-- The magnitude of a finite number in steps of its spacing. -/
def significand (d : Double) : Nat :=
  if d.rank.val / Nat.pow 2 52 = 0 then d.rank.val else Nat.pow 2 52 + d.rank.val % Nat.pow 2 52

/-- The magnitude of a finite number in smallest units. -/
def units (d : Double) : Nat := d.significand * Nat.pow 2 d.spacing

/-- `num / den` rounded to a whole number, a half going to the even neighbour. -/
def roundedQuotient (num den : Nat) : Nat :=
  let q := num / den
  if 2 * (num % den) < den then q
  else if den < 2 * (num % den) then q + 1
  else q + q % 2

/-- The number nearest to `num / den`, infinite beyond the largest finite one. -/
def nearest (negative : Bool) (num den : Nat) : Double :=
  let spacing := (num * unitsPerOne / den).log2 - 52
  ofRank negative
    (spacing * Nat.pow 2 52 + roundedQuotient (num * unitsPerOne) (den * Nat.pow 2 spacing))

def ofNat (n : Nat) : Double := nearest false n 1

def ofInt (n : Int) : Double := nearest (n < 0) n.natAbs 1

/-- The number nearest to `digits * 10 ^ exponent`. Exponents that put the value outside the
range of finite numbers, or below half a unit, are settled without the power. -/
def ofDecimal (negative : Bool) (digits : Nat) (exponent : Int) : Double :=
  let size := exponent + (Nat.toDigits 10 digits).length
  if digits = 0 ∨ size < -330 then ofRank negative 0
  else if 310 < size then infinite negative
  else if 0 ≤ exponent then nearest negative (digits * Nat.pow 10 exponent.toNat) 1
  else nearest negative digits (Nat.pow 10 (-exponent).toNat)

def abs (d : Double) : Double := ⟨false, d.rank⟩

def mul (a b : Double) : Double :=
  let negative := a.negative != b.negative
  if a.isNaN || b.isNaN then notANumber
  else if a.isFinite && b.isFinite then
    nearest negative (a.units * b.units) (unitsPerOne * unitsPerOne)
  else if a.isZero || b.isZero then notANumber
  else infinite negative

def div (a b : Double) : Double :=
  let negative := a.negative != b.negative
  if a.isNaN || b.isNaN then notANumber
  else if a.isFinite then
    if !b.isFinite then ofRank negative 0
    else if !b.isZero then nearest negative a.units b.units
    else if a.isZero then notANumber
    else infinite negative
  else if b.isFinite then infinite negative
  else notANumber

instance : Mul Double := ⟨mul⟩
instance : Div Double := ⟨div⟩

/-- Position on the number line; both zeros stand at 0. -/
def position (d : Double) : Int := if d.negative then -(d.rank.val : Int) else d.rank.val

/-- Whether `a` is below `b`; never so when one of them is no number. -/
def below (a b : Double) : Bool := !a.isNaN && !b.isNaN && a.position < b.position

/-- The nearest point of the interval from `low` to `high`. Values inside it, and what is no
number, stay as they are. -/
def clamp (d low high : Double) : Double :=
  if d.below low then low else if high.below d then high else d

/-- The nearest whole number, a half going away from zero; the sign stays. -/
def round (d : Double) : Double :=
  if d.isFinite then nearest d.negative ((2 * d.units + unitsPerOne) / (2 * unitsPerOne)) 1 else d

/-- Whole part of the magnitude, cut at `limit`. -/
def wholeUpTo (d : Double) (limit : Nat) : Nat :=
  if d.isNaN then 0 else if d.isFinite then min (d.units / unitsPerOne) limit else limit

/-- The whole part as a signed 64-bit number; values beyond its range give the nearest bound,
and what is no number gives 0. -/
def toInt64 (d : Double) : Int :=
  if d.negative then -(d.wholeUpTo (Nat.pow 2 63) : Int) else d.wholeUpTo (Nat.pow 2 63 - 1)

/-- The largest count an unsigned 64-bit number holds. -/
def maxIndex : Nat := Nat.pow 2 64 - 1

/-- The whole number below `d`, cut to the range of an unsigned 64-bit number. -/
def floorIndex (d : Double) : Nat := if d.negative then 0 else d.wholeUpTo maxIndex

/-- The whole number above `d`, cut to the range of an unsigned 64-bit number. -/
def ceilIndex (d : Double) : Nat :=
  if d.negative || d.isNaN then 0
  else if d.isFinite then min ((d.units + (unitsPerOne - 1)) / unitsPerOne) maxIndex
  else maxIndex

end Double

end RemoteTable
