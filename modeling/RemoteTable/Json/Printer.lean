import RemoteTable.Json.Basic
import RemoteTable.Number.Decimal

/-!
The compact text of a JSON value: no blanks, members in the order they stand, the fewest digits
that name a number.
-/

namespace RemoteTable.Json

/-- Exponents of the first digit for which a number is written without an exponent. -/
def plainExponents (exponent : Int) : Bool := -5 ≤ exponent && exponent ≤ 15

/-- Digits with the point at its place and at least one digit on both sides of it. -/
def plainDigits (s : Scientific) : List Char :=
  if s.exponent < 0 then
    '0' :: '.' :: List.replicate (-s.exponent - 1).toNat '0' ++ s.digits
  else
    let whole := s.exponent.toNat + 1
    let filled := s.digits ++ List.replicate (whole - s.digits.length) '0'
    let places := filled.drop whole
    filled.take whole ++ '.' :: (if places.isEmpty then ['0'] else places)

/-- One digit in front of the point, and an exponent that always has a sign. -/
def exponentDigits (s : Scientific) : List Char :=
  s.mantissa ++ 'e' :: (if s.exponent < 0 then '-' else '+') :: Decimal.digits s.exponent.natAbs

/-- A finite number as it stands in a JSON text: `0.5`, `1000000.0`, `1e+16`, `2.5e-7`. -/
def floatText (d : Double) : List Char :=
  let sign := if d.negative then ['-'] else []
  if d.isZero then sign ++ ['0', '.', '0']
  else
    let s := d.shortest
    sign ++ (if plainExponents s.exponent then plainDigits s else exponentDigits s)

/-- Two hexadecimal digits of a small number, in lower case. -/
def hexPair (n : Nat) : List Char := [Nat.digitChar (n / 16 % 16), Nat.digitChar (n % 16)]

/-- A character inside a quoted string. Quotes, backslashes and control characters are escaped,
all others stand for themselves. -/
def escapeChar (c : Char) : List Char :=
  if c = '"' then ['\\', '"']
  else if c = '\\' then ['\\', '\\']
  else if c = '\x08' then ['\\', 'b']
  else if c = '\t' then ['\\', 't']
  else if c = '\n' then ['\\', 'n']
  else if c = '\x0c' then ['\\', 'f']
  else if c = '\r' then ['\\', 'r']
  else if c.toNat < 32 then '\\' :: 'u' :: '0' :: '0' :: hexPair c.toNat
  else [c]

def quoted (text : String) : List Char := '"' :: text.toList.flatMap escapeChar ++ ['"']

mutual

def print : Json → List Char
  | .null => ['n', 'u', 'l', 'l']
  | .bool true => ['t', 'r', 'u', 'e']
  | .bool false => ['f', 'a', 'l', 's', 'e']
  | .int value => (toString value).toList
  | .float value => floatText value
  | .string text => quoted text
  | .array [] => ['[', ']']
  | .array (e :: rest) => '[' :: print e ++ printElements rest
  | .object [] => ['\x7b', '\x7d']
  | .object ((key, value) :: rest) =>
    '\x7b' :: quoted key ++ ':' :: print value ++ printMembers rest

/-- The elements behind the first one, and the closing bracket. -/
def printElements : List Json → List Char
  | [] => [']']
  | e :: rest => ',' :: print e ++ printElements rest

/-- The members behind the first one, and the closing brace. -/
def printMembers : List (String × Json) → List Char
  | [] => ['\x7d']
  | (key, value) :: rest => ',' :: quoted key ++ ':' :: print value ++ printMembers rest

end

/-- The compact text of a value. -/
def text (value : Json) : String := String.ofList value.print

end RemoteTable.Json
