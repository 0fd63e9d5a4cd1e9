import RemoteTable.Protocol.Error

/-!
The address of a server: a scheme and an authority, with a path behind them. Only plain websocket
addresses are connected to.
-/

namespace RemoteTable

structure Address where
  scheme : Option (List Char)
  authority : Option (List Char)
deriving DecidableEq

namespace Address

/-- Characters of a scheme. -/
def isSchemeChar (c : Char) : Bool :=
  c.isAlphanum || c == '+' || c == '-' || c == '.' || c == '~'

/-- Characters of an authority; percent signs are looked at apart. -/
def isAuthorityChar (c : Char) : Bool :=
  c.isAlphanum || ['!', '#', '$', '&', '\'', '(', ')', '*', '+', ',', '-', '.', '/', ':', ';',
    '=', '?', '@', '[', ']', '_', '~'].contains c

/-- Characters of a path, quotes and braces included. -/
def isPathChar (c : Char) : Bool := '!' ≤ c ∧ c ∉ ['#', '<', '>', '?', '\x60', '\x7f']

/-- Characters of a query. -/
def isQueryChar (c : Char) : Bool := '!' ≤ c ∧ c ∉ ['"', '#', '<', '>', '\x7f']

/-- The longest address and the longest scheme that are looked at. -/
def maxLength : Nat := 65534
def maxSchemeLength : Nat := 64

/-- Splits off a scheme, which two slashes follow. -/
def splitScheme (text : List Char) : Except AddressError (Option (List Char) × List Char) :=
  let scheme := text.takeWhile isSchemeChar
  match text.dropWhile isSchemeChar with
  | ':' :: '/' :: '/' :: rest =>
    if text.length ≤ 3 then .ok (none, text)
    else if maxSchemeLength < scheme.length then .error .schemeTooLong
    else .ok (some scheme, rest)
  | _ => .ok (none, text)

/-- What has been seen of an authority: colons in front of a number, brackets around a host, percent
signs outside of a user name, and whether the last character ends a user name. -/
structure Seen where
  colons : Nat
  opened : Bool
  closed : Bool
  percent : Bool
  userEnds : Bool

/-- Looks at one character of an authority. -/
def Seen.add (seen : Seen) (c : Char) : Except AddressError Seen :=
  let seen := { seen with userEnds := false }
  if c = ':' then
    if 8 ≤ seen.colons then .error .badAuthority else .ok { seen with colons := seen.colons + 1 }
  else if c = '[' then
    if seen.percent || seen.opened then .error .badAuthority else .ok { seen with opened := true }
  else if c = ']' then
    if !seen.opened || seen.closed then .error .badAuthority
    else .ok { seen with closed := true, colons := 0, percent := false }
  else if c = '@' then .ok { seen with colons := 0, percent := false, userEnds := true }
  else if c = '%' then .ok { seen with percent := true }
  else if isAuthorityChar c then .ok seen
  else .error .badCharacter

/-- Splits off the authority, which ends in front of a path. -/
def splitAuthority (text : List Char) : Except AddressError (List Char × List Char) := do
  let ends := fun c : Char => c == '/' || c == '?' || c == '#'
  let authority := text.takeWhile (!ends ·)
  let seen ← authority.foldlM Seen.add ⟨0, false, false, false, false⟩
  if seen.opened != seen.closed || 1 < seen.colons || seen.userEnds || seen.percent then
    throw .badAuthority
  return (authority, text.dropWhile (!ends ·))

/-- Looks at the characters of a path and of the query behind it, up to a fragment. -/
def checkPath (text : List Char) : Except AddressError Unit :=
  let path := text.takeWhile fun c => c != '?' && c != '#'
  let query := match text.dropWhile fun c => c != '?' && c != '#' with
    | '?' :: rest => rest.takeWhile (· != '#')
    | _ => []
  if path.all isPathChar && query.all isQueryChar then .ok () else .error .badCharacter

/-- Reads an address. What has no scheme is an authority alone, or a path without one. -/
def parse (text : String) : Except AddressError Address :=
  if maxLength < text.utf8ByteSize then .error .tooLong
  else match text.toList with
    | [] => .error .empty
    | ['*'] => .ok ⟨none, none⟩
    | '/' :: rest => (checkPath ('/' :: rest)).map fun _ => ⟨none, none⟩
    | [c] => do
      let (authority, path) ← splitAuthority [c]
      if path.isEmpty then return ⟨none, some authority⟩ else throw .badCharacter
    | chars => do
      let (scheme, rest) ← splitScheme chars
      if rest.isEmpty then throw .empty
      let (authority, path) ← splitAuthority rest
      if scheme.isNone then
        if path.isEmpty then return ⟨none, some authority⟩ else throw .badFormat
      else if authority.isEmpty then throw .badFormat
      else
        checkPath path
        return ⟨scheme, some authority⟩

/-- Why an address is not connected to; none if a connection is tried. -/
def refusal? (text : String) : Option AddressError :=
  match parse text with
  | .error err => some err
  | .ok address =>
    if address.authority.isNone then some .noHost
    else match address.scheme.map String.ofList with
      | some "ws" => none
      | some "wss" => some .noEncryption
      | _ => some .unsupportedScheme

end Address

end RemoteTable
