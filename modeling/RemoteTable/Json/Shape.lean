import RemoteTable.Json.Token

/-!
Reading a JSON text that should have a known shape. The text is read once from left to right;
what does not fit the shape is noticed where it stands, so a misfit in front of a fault of the
grammar wins, and a fault of the grammar in front of a misfit.
-/

namespace RemoteTable.Json

/-- What a text is read for. -/
inductive Shape where
  /-- Any value; the keys of its objects are sorted. -/
  | any
  | bool
  | unsigned (bits : Nat)
  | double
  | string
  /-- One of some strings. -/
  | choice (names : List String)
  /-- A string, or an object whose only member is null. -/
  | name
  /-- A value or null. -/
  | option (inner : Shape)
  | list (element : Shape)
  /-- An object, or an array of its fields in order. Each field has its name, whether an object
  may lack it, whether an array may end in front of it, and its shape. Other members of the
  object are skipped. -/
  | record (fields : List (String × Bool × Bool × Shape))
  /-- An object some members of which are read with their shape at once and stand there once.
  All members are kept in their order. -/
  | members (early : List (String × Shape))
  /-- An object with a member `tag`, or an array that starts with it. -/
  | tagged (tag : String) (names : List String)

/-- The failure for a value that is not of the wanted kind. Words, numbers and strings are read
to their end, and their own faults come first. -/
def misfit (text : List Char) : ReadFailure :=
  let after := fun {α : Type} (reading : Except ReadFailure (α × List Char)) =>
    match reading with
    | .ok _ => ReadFailure.mismatch
    | .error failure => failure
  match text with
  | [] => .truncated
  | 'n' :: _ => after (readWord "null".toList text)
  | 't' :: _ => after (readWord "true".toList text)
  | 'f' :: _ => after (readWord "false".toList text)
  | '"' :: rest => after (readString false rest)
  | c :: _ =>
    if c = '-' || c.isDigit then after (readNumber text)
    else if c = '[' || c = '\x7b' then .mismatch
    else .malformed

/-- How many containers may stand inside each other, and one more. -/
def maxDepth : Nat := 128

/-- The depth that is left inside one more container. -/
def enter (depth : Nat) : Except ReadFailure Nat :=
  if depth ≤ 1 then .error .malformed else .ok (depth - 1)

/-- Whether a further element of an array follows. The rest starts with that element, or stands
behind the closing bracket. -/
def nextElement (first : Bool) (text : List Char) : Except ReadFailure (Bool × List Char) :=
  match skipBlanks text with
  | [] => .error .truncated
  | ']' :: rest => .ok (false, rest)
  | ',' :: rest =>
    if first then .ok (true, ',' :: rest)
    else match skipBlanks rest with
      | [] => .error .truncated
      | ']' :: _ => .error .malformed
      | rest => .ok (true, rest)
  | rest => if first then .ok (true, rest) else .error .malformed

/-- The key of the next member of an object, none if the object ends. The rest starts with the
colon, or stands behind the closing brace. -/
def nextKey (lenient : Lenient) (first : Bool) (text : List Char) :
    Except ReadFailure (Option String × List Char) :=
  let key := fun text => match text with
    | '"' :: rest => (readString lenient rest).map fun (k, r) => (some k, r)
    | [] => .error .truncated
    | _ => .error .malformed
  match skipBlanks text with
  | '\x7d' :: rest => .ok (none, rest)
  | ',' :: rest => if first then .error .malformed else key (skipBlanks rest)
  | [] => .error .truncated
  | rest => if first then key rest else .error .malformed

/-- The colon behind a key. -/
def readColon (text : List Char) : Except ReadFailure (List Char) :=
  match skipBlanks text with
  | ':' :: rest => .ok rest
  | [] => .error .truncated
  | _ => .error .malformed

/-- The closing bracket of an array all of whose elements have been read. -/
def readArrayEnd (text : List Char) : Except ReadFailure (List Char) :=
  match skipBlanks text with
  | ']' :: rest => .ok rest
  | [] => .error .truncated
  | _ => .error .malformed

mutual

/-- Skips a value of any kind. Neither the depth of its containers nor the size of its numbers
matters. -/
def skipValue : Nat → List Char → Except ReadFailure (List Char)
  | 0, _ => .error .truncated
  | fuel + 1, text =>
    match skipBlanks text with
    | [] => .error .truncated
    | 'n' :: rest => (readWord "ull".toList rest).map (·.2)
    | 't' :: rest => (readWord "rue".toList rest).map (·.2)
    | 'f' :: rest => (readWord "alse".toList rest).map (·.2)
    | '"' :: rest => (readString true rest).map (·.2)
    | '[' :: rest => skipElements fuel true rest
    | '\x7b' :: rest => skipMembers fuel true rest
    | c :: rest =>
      if c = '-' || c.isDigit then (readNumeral true (c :: rest)).map (·.2) else .error .malformed

def skipElements : Nat → Bool → List Char → Except ReadFailure (List Char)
  | 0, _, _ => .error .truncated
  | fuel + 1, first, text => do
    let (more, text) ← nextElement first text
    if more then skipElements fuel false (← skipValue fuel text) else return text

def skipMembers : Nat → Bool → List Char → Except ReadFailure (List Char)
  | 0, _, _ => .error .truncated
  | fuel + 1, first, text => do
    let (key, text) ← nextKey true first text
    if key.isNone then return text
    else skipMembers fuel false (← skipValue fuel (← readColon text))

end

mutual

/-- Reads a value of the given shape; `fuel` bounds the steps and `depth` the containers. -/
def readShape : Nat → Shape → Nat → List Char → Except ReadFailure (Json × List Char)
  | 0, _, _, _ => .error .truncated
  | fuel + 1, shape, depth, text =>
    let text := skipBlanks text
    match shape with
    | .any =>
      match text with
      | [] => .error .truncated
      | 'n' :: rest => (readWord "ull".toList rest).map fun (_, r) => (.null, r)
      | 't' :: rest => (readWord "rue".toList rest).map fun (_, r) => (.bool true, r)
      | 'f' :: rest => (readWord "alse".toList rest).map fun (_, r) => (.bool false, r)
      | '"' :: rest => (readString false rest).map fun (s, r) => (.string s, r)
      | '[' :: rest => do
        let (elements, rest) ← readElements fuel .any (← enter depth) true rest
        return (.array elements, rest)
      | '\x7b' :: rest => do
        let (members, rest) ← readMembers fuel [] (← enter depth) [] true rest
        return (.object (sortMembers members), rest)
      | c :: _ => if c = '-' || c.isDigit then readNumber text else .error .malformed
    | .bool =>
      match text with
      | 't' :: rest => (readWord "rue".toList rest).map fun (_, r) => (.bool true, r)
      | 'f' :: rest => (readWord "alse".toList rest).map fun (_, r) => (.bool false, r)
      | _ => .error (misfit text)
    | .unsigned bits =>
      match text with
      | c :: _ =>
        if c = '-' || c.isDigit then do
          let (value, rest) ← readNumber text
          match value with
          | .int n => if 0 ≤ n ∧ n < Nat.pow 2 bits then return (.int n, rest) else throw .mismatch
          | _ => throw .mismatch
        else .error (misfit text)
      | [] => .error .truncated
    | .double =>
      match text with
      | c :: _ => if c = '-' || c.isDigit then readNumber text else .error (misfit text)
      | [] => .error .truncated
    | .string =>
      match text with
      | '"' :: rest => (readString false rest).map fun (s, r) => (.string s, r)
      | _ => .error (misfit text)
    | .choice names =>
      match text with
      | '"' :: rest => do
        let (s, rest) ← readString false rest
        if names.contains s then return (.string s, rest) else throw .mismatch
      | _ => .error (misfit text)
    | .name =>
      match text with
      | '"' :: rest => (readString false rest).map fun (s, r) => (.string s, r)
      | '\x7b' :: rest => do
        let _ ← enter depth
        let key ← match skipBlanks rest with
          | '"' :: rest => readString false rest
          | [] => throw .truncated
          | _ => throw .malformed
        let value ← match skipBlanks (← readColon key.2) with
          | 'n' :: rest => readWord "ull".toList rest
          | rest => throw (misfit rest)
        match skipBlanks value.2 with
        | '\x7d' :: rest => return (.object [(key.1, .null)], rest)
        | [] => throw .truncated
        | _ => throw .malformed
      | [] => .error .truncated
      | _ => .error .malformed
    | .option inner =>
      match text with
      | 'n' :: rest => (readWord "ull".toList rest).map fun (_, r) => (.null, r)
      | _ => readShape fuel inner depth text
    | .list element =>
      match text with
      | '[' :: rest => do
        let (elements, rest) ← readElements fuel element (← enter depth) true rest
        return (.array elements, rest)
      | _ => .error (misfit text)
    | .record fields =>
      match text with
      | '[' :: rest => do
        let (elements, rest) ← readFields fuel fields (← enter depth) true rest
        return (.array elements, rest)
      | '\x7b' :: rest => do
        let (members, rest) ← readRecord fuel fields (← enter depth) [] true rest
        return (.object members, rest)
      | _ => .error (misfit text)
    | .members early =>
      match text with
      | '\x7b' :: rest => do
        let (members, rest) ← readMembers fuel early (← enter depth) [] true rest
        return (.object members, rest)
      | _ => .error (misfit text)
    | .tagged tag names =>
      match text with
      | '[' :: rest => do
        let depth ← enter depth
        let (more, rest) ← nextElement true rest
        if more then
          let (first, rest) ← readShape fuel (.choice names) depth rest
          let (others, rest) ← readElements fuel .any depth false rest
          return (.array (first :: others), rest)
        else throw .mismatch
      | '\x7b' :: rest => do
        let early := [(tag, Shape.choice names)]
        let (members, rest) ← readMembers fuel early (← enter depth) [] true rest
        return (.object members, rest)
      | _ => .error (misfit text)

/-- The elements of an array up to its end. -/
def readElements : Nat → Shape → Nat → Bool → List Char →
    Except ReadFailure (List Json × List Char)
  | 0, _, _, _, _ => .error .truncated
  | fuel + 1, shape, depth, first, text => do
    let (more, text) ← nextElement first text
    if more then
      let (element, text) ← readShape fuel shape depth text
      let (others, text) ← readElements fuel shape depth false text
      return (element :: others, text)
    else return ([], text)

/-- The fields of a record that is written as an array. -/
def readFields : Nat → List (String × Bool × Bool × Shape) → Nat → Bool → List Char →
    Except ReadFailure (List Json × List Char)
  | 0, _, _, _, _ => .error .truncated
  | _ + 1, [], _, _, text => do
    return ([], ← readArrayEnd text)
  | fuel + 1, (_, _, mayEnd, shape) :: fields, depth, first, text => do
    let (more, text) ← nextElement first text
    if more then
      let (element, text) ← readShape fuel shape depth text
      let (others, text) ← readFields fuel fields depth false text
      return (element :: others, text)
    else if mayEnd && fields.all (·.2.2.1) then return ([], text)
    else throw .mismatch

/-- The known members of a record, none of which may stand there twice; `seen` are the names
read so far. -/
def readRecord : Nat → List (String × Bool × Bool × Shape) → Nat → List String → Bool →
    List Char → Except ReadFailure (List (String × Json) × List Char)
  | 0, _, _, _, _, _ => .error .truncated
  | fuel + 1, fields, depth, seen, first, text => do
    match ← nextKey false first text with
    | (none, text) =>
      if fields.all fun field => field.2.1 || seen.contains field.1 then return ([], text)
      else throw .mismatch
    | (some key, text) =>
      match fields.lookup key with
      | some (_, _, shape) =>
        if seen.contains key then throw .mismatch
        let (value, text) ← readShape fuel shape depth (← readColon text)
        let (others, text) ← readRecord fuel fields depth (key :: seen) false text
        return ((key, value) :: others, text)
      | none =>
        let text ← skipValue fuel (← readColon text)
        readRecord fuel fields depth seen false text

/-- All members of an object; those in `early` have their shape and stand there once. -/
def readMembers : Nat → List (String × Shape) → Nat → List String → Bool → List Char →
    Except ReadFailure (List (String × Json) × List Char)
  | 0, _, _, _, _, _ => .error .truncated
  | fuel + 1, early, depth, seen, first, text => do
    match ← nextKey false first text with
    | (none, text) => return ([], text)
    | (some key, text) =>
      let shape := early.lookup key
      if shape.isSome && seen.contains key then throw .mismatch
      let (value, text) ← readShape fuel (shape.getD .any) depth (← readColon text)
      let (others, text) ← readMembers fuel early depth (key :: seen) false text
      return ((key, value) :: others, text)

end

/-- Reads a value of the given shape from the front of a text. -/
def Shape.read (shape : Shape) (text : List Char) : Except ReadFailure (Json × List Char) :=
  readShape (3 * text.length + 8) shape maxDepth text

/-- Nothing but blanks may follow a value. -/
def readEnd (text : List Char) : Except ReadFailure Unit :=
  if (skipBlanks text).isEmpty then .ok () else .error .malformed

/-- The value of a whole text. -/
def parse (text : String) : Except ReadFailure Json := do
  let (value, rest) ← Shape.any.read text.toList
  readEnd rest
  return value

end RemoteTable.Json
