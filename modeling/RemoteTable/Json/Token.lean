import RemoteTable.Json.Basic

/-!
Scanning the leaves of a JSON text: blanks, the three words, numbers and strings. Each scanner
gives what it read and the rest of the text. A text is read from left to right, and the first
thing wrong with it decides how reading fails.
-/

namespace RemoteTable.Json

/-- How reading a text fails. -/
inductive ReadFailure where
  /-- The text breaks the grammar. -/
  | malformed
  /-- The text ends too early. -/
  | truncated
  /-- The text fits the grammar so far, but not the type it is read for. -/
  | mismatch
deriving DecidableEq

def isBlank (c : Char) : Bool := c == ' ' || c == '\n' || c == '\t' || c == '\r'

def skipBlanks (text : List Char) : List Char := text.dropWhile isBlank

/-- Reads a fixed word. -/
def readWord : List Char → List Char → Except ReadFailure (Unit × List Char)
  | [], text => .ok ((), text)
  | _ :: _, [] => .error .truncated
  | w :: word, c :: text => if w = c then readWord word text else .error .malformed

def digitValue (c : Char) : Nat := c.toNat - '0'.toNat

def digitsValue (digits : List Char) : Nat :=
  digits.foldl (fun value c => 10 * value + digitValue c) 0

/-- The parts of a number as they are written. -/
structure Numeral where
  negative : Bool
  whole : List Char
  fraction : List Char
  exponent : Option Int

/-- Whether a number that is only skipped is read. Then a missing digit is always an error of
the grammar, also at the end of the text. -/
abbrev Lenient := Bool

/-- The failure when a digit is missing in front of `rest`. -/
def missingDigit (lenient : Lenient) (rest : List Char) : ReadFailure :=
  if rest.isEmpty && !lenient then .truncated else .malformed

/-- Digits, at least one. -/
def readDigits (lenient : Lenient) (text : List Char) :
    Except ReadFailure (List Char × List Char) :=
  let digits := text.takeWhile Char.isDigit
  if digits.isEmpty then .error (missingDigit lenient text)
  else .ok (digits, text.dropWhile Char.isDigit)

/-- The digits in front of the point; a leading zero stands alone. -/
def readWhole (lenient : Lenient) : List Char → Except ReadFailure (List Char × List Char)
  | '0' :: rest =>
    if rest.head?.any Char.isDigit then .error .malformed else .ok (['0'], rest)
  | text => readDigits lenient text

def readFraction (lenient : Lenient) : List Char → Except ReadFailure (List Char × List Char)
  | '.' :: rest => readDigits lenient rest
  | text => .ok ([], text)

/-- The exponent without its letter. -/
def readSignedExponent (lenient : Lenient) : List Char → Except ReadFailure (Int × List Char)
  | '-' :: rest => (readDigits lenient rest).map fun (ds, r) => (-(digitsValue ds : Int), r)
  | '+' :: rest => (readDigits lenient rest).map fun (ds, r) => ((digitsValue ds : Int), r)
  | text => (readDigits lenient text).map fun (ds, r) => ((digitsValue ds : Int), r)

def readExponent (lenient : Lenient) : List Char → Except ReadFailure (Option Int × List Char)
  | 'e' :: rest => (readSignedExponent lenient rest).map fun (e, r) => (some e, r)
  | 'E' :: rest => (readSignedExponent lenient rest).map fun (e, r) => (some e, r)
  | text => .ok (none, text)

def readNumeral (lenient : Lenient) (text : List Char) :
    Except ReadFailure (Numeral × List Char) := do
  let (negative, text) := match text with
    | '-' :: rest => (true, rest)
    | _ => (false, text)
  let (whole, text) ← readWhole lenient text
  let (fraction, text) ← readFraction lenient text
  let (exponent, text) ← readExponent lenient text
  return (⟨negative, whole, fraction, exponent⟩, text)

/-- The number nearest to what is written, half to even. Readers that multiply by a rounded power of ten
may miss it by the last digit. -/
def Numeral.toDouble (n : Numeral) : Double :=
  Double.ofDecimal n.negative (digitsValue (n.whole ++ n.fraction))
    (n.exponent.getD 0 - n.fraction.length)

/-- A number without point and exponent is whole if a 64-bit word holds it; minus zero is not. -/
def Numeral.wholeValue? (n : Numeral) : Option Int :=
  let magnitude := digitsValue n.whole
  if !n.fraction.isEmpty || n.exponent.isSome then none
  else if n.negative then
    if magnitude = 0 ∨ Nat.pow 2 63 < magnitude then none else some (-(magnitude : Int))
  else if magnitude < Nat.pow 2 64 then some magnitude else none

/-- The value of a number; one beyond all finite numbers is refused. -/
def Numeral.value (n : Numeral) : Except ReadFailure Json :=
  match n.wholeValue? with
  | some value => .ok (.int value)
  | none => if n.toDouble.isFinite then .ok (.float n.toDouble) else .error .malformed

def readNumber (text : List Char) : Except ReadFailure (Json × List Char) := do
  let (numeral, rest) ← readNumeral false text
  return (← numeral.value, rest)

def hexValue? (c : Char) : Option Nat :=
  if c.isDigit then some (c.toNat - '0'.toNat)
  else if 'a' ≤ c ∧ c ≤ 'f' then some (c.toNat - 'a'.toNat + 10)
  else if 'A' ≤ c ∧ c ≤ 'F' then some (c.toNat - 'A'.toNat + 10)
  else none

/-- The value of four hexadecimal digits. A text with fewer than four bytes ends too early. -/
def readHex : List Char → Except ReadFailure (Nat × List Char)
  | a :: b :: c :: d :: rest =>
    match hexValue? a, hexValue? b, hexValue? c, hexValue? d with
    | some a, some b, some c, some d => .ok (4096 * a + 256 * b + 16 * c + d, rest)
    | _, _, _, _ => .error .malformed
  | short => if (String.ofList short).utf8ByteSize < 4 then .error .truncated else .error .malformed

def isLeadingSurrogate (n : Nat) : Bool := 0xD800 ≤ n && n ≤ 0xDBFF
def isTrailingSurrogate (n : Nat) : Bool := 0xDC00 ≤ n && n ≤ 0xDFFF

/-- A character written as one code or as a pair of surrogates. -/
def readCode (text : List Char) : Except ReadFailure (Char × List Char) := do
  let (code, rest) ← readHex text
  if isTrailingSurrogate code then throw .malformed
  else if !isLeadingSurrogate code then return (Char.ofNat code, rest)
  else match rest with
    | [] => throw .truncated
    | '\\' :: [] => throw .truncated
    | '\\' :: 'u' :: rest =>
      let (second, rest) ← readHex rest
      if isTrailingSurrogate second then
        return (Char.ofNat (0x10000 + 1024 * (code - 0xD800) + (second - 0xDC00)), rest)
      else throw .malformed
    | _ => throw .malformed

/-- The character after a backslash. In a string that is only skipped any code will do. -/
def readEscape (lenient : Lenient) : List Char → Except ReadFailure (Char × List Char)
  | [] => .error .truncated
  | 'u' :: rest => if lenient then (readHex rest).map fun (_, r) => ('u', r) else readCode rest
  | c :: rest =>
    match [('"', '"'), ('\\', '\\'), ('/', '/'), ('b', '\x08'), ('f', '\x0c'), ('n', '\n'),
      ('r', '\r'), ('t', '\t')].lookup c with
    | some value => .ok (value, rest)
    | none => .error .malformed

/-- The characters of a string up to its closing quote; `fuel` bounds their number. -/
def readChars (lenient : Lenient) :
    Nat → List Char → Except ReadFailure (List Char × List Char)
  | 0, _ => .error .truncated
  | _ + 1, [] => .error .truncated
  | _ + 1, '"' :: rest => .ok ([], rest)
  | fuel + 1, '\\' :: rest => do
    let (c, rest) ← readEscape lenient rest
    let (cs, rest) ← readChars lenient fuel rest
    return (c :: cs, rest)
  | fuel + 1, c :: rest =>
    if c.toNat < 32 then .error .malformed
    else do
      let (cs, rest) ← readChars lenient fuel rest
      return (c :: cs, rest)

/-- A string whose opening quote has been read. -/
def readString (lenient : Lenient) (text : List Char) :
    Except ReadFailure (String × List Char) := do
  let (cs, rest) ← readChars lenient (text.length + 1) text
  return (String.ofList cs, rest)

end RemoteTable.Json
