import RemoteTable.Number.Decimal

/-!
How counts and measurements are shown: whole counts with grouped digits, measurements with three
significant digits and a magnitude suffix, and fractions as percentages.
-/

namespace RemoteTable.Quantity

/-- Puts a comma in front of every digit after which a whole number of groups of three follows,
the first digit excepted. -/
def insertCommas : List Char → List Char
  | [] => []
  | [d] => [d]
  | d :: e :: rest =>
    if (rest.length + 1) % 3 = 0 then d :: ',' :: insertCommas (e :: rest)
    else d :: insertCommas (e :: rest)

/-- A count with a comma between groups of three digits: `1,234,567`. -/
def grouped (n : Nat) : String := String.ofList (insertCommas (Decimal.digits n))

/-- Powers of ten that have a suffix, the largest first. -/
def magnitudes : List (Nat × String) := [(12, "T"), (9, "B"), (6, "M"), (3, "K")]

/-- Drops zeros at the end of the places, and the point with them when no place is left. -/
def trimPlaces (text : List Char) : List Char :=
  if text.contains '.' then
    let kept := text.reverse.dropWhile (· == '0')
    (if kept.head? = some '.' then kept.tail else kept).reverse
  else text

/-- Places that leave three significant digits in a number below one thousand. -/
def placesFor (d : Double) : Nat :=
  if d.abs.below (Double.ofNat 1) then 3
  else if d.abs.below (Double.ofNat 10) then 2
  else if d.abs.below (Double.ofNat 100) then 1
  else 0

/-- A measurement with three significant digits: `12`, `1.23K`, `2.5M`. Magnitudes below one
thousandth are written in scientific form. -/
def significant (d : Double) : String :=
  if d.isZero || !d.isFinite then d.fixedText 0
  else if d.abs.below (Double.nearest false 1 1000) then d.scientificText 2
  else
    let magnitude := magnitudes.find? fun m => !d.abs.below (Double.ofNat (Nat.pow 10 m.1))
    let (scaled, suffix) := match magnitude with
      | some (power, suffix) => (d / Double.ofNat (Nat.pow 10 power), suffix)
      | none => (d, "")
    String.ofList (trimPlaces (scaled.fixedText (placesFor scaled)).toList) ++ suffix

/-- A fraction of one as a percentage with at most one place. -/
def percent (fraction : Double) : String :=
  significant ((fraction * Double.ofNat 1000).round / Double.ofNat 10) ++ "%"

end RemoteTable.Quantity
