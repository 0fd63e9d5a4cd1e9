import RemoteTable.Number.Double

/-!
Calendar dates of moments counted in milliseconds from the first of January 1970, in the
Gregorian calendar extended to all years.
-/

namespace RemoteTable

structure Date where
  year : Int
  month : Nat
  day : Nat
deriving DecidableEq

namespace Date

def weekdayNames : List String := ["Sun", "Mon", "Tue", "Wed", "Thu", "Fri", "Sat"]

def monthNames : List String :=
  ["Jan", "Feb", "Mar", "Apr", "May", "Jun", "Jul", "Aug", "Sep", "Oct", "Nov", "Dec"]

/-- The date of a day counted from the first of January 1970. Years are counted from March, so
that a leap day ends one; 400 of them have 146097 days. -/
def ofEpochDay (epochDay : Int) : Date :=
  let shifted := epochDay + 719468
  let era := shifted.fdiv 146097
  let dayOfEra := (shifted.fmod 146097).toNat
  let yearOfEra :=
    (dayOfEra - dayOfEra / 1460 + dayOfEra / 36524 - dayOfEra / 146096) / 365
  let dayOfYear := dayOfEra - (365 * yearOfEra + yearOfEra / 4 - yearOfEra / 100)
  let monthFromMarch := (5 * dayOfYear + 2) / 153
  let month := if monthFromMarch < 10 then monthFromMarch + 3 else monthFromMarch - 9
  let day := dayOfYear - (153 * monthFromMarch + 2) / 5 + 1
  ⟨era * 400 + yearOfEra + (if month ≤ 2 then 1 else 0), month, day⟩

/-- Place in the week of a day counted from the first of January 1970, Sunday being 0. -/
def weekdayOfEpochDay (epochDay : Int) : Nat := ((epochDay + 4).fmod 7).toNat

/-- Years from 0 to 9999 have four digits; all others have a sign and at least four. -/
def yearText (year : Int) : String :=
  let digits := Nat.toDigits 10 year.natAbs
  let filled := String.ofList (List.replicate (4 - digits.length) '0' ++ digits)
  if year < 0 then "-" ++ filled else if 9999 < year then "+" ++ filled else filled

def dayText (day : Nat) : String :=
  String.ofList (List.replicate (2 - (Nat.toDigits 10 day).length) '0' ++ Nat.toDigits 10 day)

/-- Dates with a year outside these bounds are not represented. -/
def firstYear : Int := -262143
def lastYear : Int := 262142

/-- The date of a moment as weekday, month, day and year; none outside the known years. Moments
between two milliseconds belong to the one nearer to zero. -/
def ofMillis? (millis : Double) : Option String :=
  if !millis.isFinite then none
  else
    let epochDay := millis.toInt64.fdiv 86400000
    let date := ofEpochDay epochDay
    if date.year < firstYear ∨ lastYear < date.year then none
    else
      let weekday := weekdayNames.getD (weekdayOfEpochDay epochDay) ""
      let month := monthNames.getD (date.month - 1) ""
      some (weekday ++ " " ++ month ++ " " ++ dayText date.day ++ " " ++ yearText date.year)

end Date

end RemoteTable
