import ApiStencil.Json.Reader
/-!
Passing over a JSON value. Only the form of the text matters: numbers may be of any size, and values may
stand inside one another as deep as they like.
-/
set_option autoImplicit false

namespace ApiStencil.Json.Reader

def skipDigits (k : Cursor) : Cursor := (digits k).2

/-- One digit, with those that follow. -/
def skipSomeDigits (k : Cursor) : Step Unit :=
  match k.rest with
  | [] => .error (k.here .invalidNumber)
  | c :: rest =>
    let k := k.past c rest
    if c.isDigit then .ok ((), skipDigits k) else .error (k.here .invalidNumber)

def skipExponent (k : Cursor) : Step Unit :=
  match k.rest with
  | 'e' :: '+' :: _ | 'e' :: '-' :: _ | 'E' :: '+' :: _ | 'E' :: '-' :: _ => skipSomeDigits (k.drop 2)
  | 'e' :: _ | 'E' :: _ => skipSomeDigits (k.drop 1)
  | _ => .ok ((), k)

def skipFraction (k : Cursor) : Step Unit :=
  match k.rest with
  | '.' :: _ =>
    let k := k.drop 1
    if k.rest.head?.any Char.isDigit then skipExponent (skipDigits k) else .error (k.ahead .invalidNumber)
  | _ => skipExponent k

/-- A number whose sign, if any, is behind the cursor. -/
def skipNumber (k : Cursor) : Step Unit :=
  match k.rest with
  | '0' :: _ =>
    let k := k.drop 1
    if k.rest.head?.any Char.isDigit then .error (k.ahead .invalidNumber) else skipFraction k
  | _ =>
    match skipSomeDigits k with
    | .error e => .error e
    | .ok (_, k) => skipFraction k

def skipEscape (k : Cursor) : Step Unit :=
  match k.rest with
  | [] => .error (k.here .endInString)
  | c :: rest =>
    let k := k.past c rest
    if "\"\\/bfnrt".toList.contains c then .ok ((), k)
    else if c == 'u' then (hexUnit k).map fun (_, k) => ((), k)
    else .error (k.here .invalidEscape)

/-- A string whose opening quote is behind the cursor. -/
def skipString : Nat → Cursor → Step Unit
  | 0, k => .error (k.here .endInString)
  | fuel + 1, k =>
    match k.rest with
    | [] => .error (k.here .endInString)
    | c :: rest =>
      if c == '"' then .ok ((), k.past c rest)
      else if c == '\\' then
        match skipEscape (k.past c rest) with
        | .error e => .error e
        | .ok (_, k) => skipString fuel k
      else if c.toNat < 32 then .error (k.here .controlCharacter)
      else skipString fuel (k.past c rest)

/-- The name of a field and its colon. -/
def skipName (k : Cursor) : Step Unit :=
  let k := k.skipSpace
  match k.rest with
  | [] => .error (k.ahead .endInObject)
  | '"' :: _ =>
    match skipString (k.rest.length + 1) (k.drop 1) with
    | .error e => .error e
    | .ok (_, k) => colon k
  | _ => .error (k.ahead .keyNotString)

mutual

def skipValue : Nat → Cursor → Step Unit
  | 0, k => .error (k.here .endInValue)
  | fuel + 1, k =>
    let k := k.skipSpace
    match k.rest with
    | [] => .error (k.ahead .endInValue)
    | c :: rest =>
      let next := k.past c rest
      match c with
      | 'n' => ident next "ull".toList
      | 't' => ident next "rue".toList
      | 'f' => ident next "alse".toList
      | '-' => skipNumber next
      | '"' => skipString (rest.length + 1) next
      | '[' =>
        let k := next.skipSpace
        match k.rest with
        | [] => .error (k.ahead .endInList)
        | ']' :: _ => .ok ((), k.drop 1)
        | _ => skipItems fuel k
      | '\x7b' =>
        let k := next.skipSpace
        match k.rest with
        | [] => .error (k.ahead .endInObject)
        | '\x7d' :: _ => .ok ((), k.drop 1)
        | _ => skipFields fuel k
      | c => if c.isDigit then skipNumber k else .error (k.ahead .expectedValue)

/-- Items up to the end of an array, at least one. -/
def skipItems : Nat → Cursor → Step Unit
  | 0, k => .error (k.here .endInList)
  | fuel + 1, k =>
    match skipValue fuel k with
    | .error e => .error e
    | .ok (_, k) =>
      let k := k.skipSpace
      match k.rest with
      | [] => .error (k.ahead .endInList)
      | ',' :: _ => skipItems fuel (k.drop 1)
      | ']' :: _ => .ok ((), k.drop 1)
      | _ => .error (k.ahead .expectedListEnd)

/-- Fields up to the end of an object, at least one. -/
def skipFields : Nat → Cursor → Step Unit
  | 0, k => .error (k.here .endInObject)
  | fuel + 1, k =>
    match skipName k with
    | .error e => .error e
    | .ok (_, k) =>
      match skipValue fuel k with
      | .error e => .error e
      | .ok (_, k) =>
        let k := k.skipSpace
        match k.rest with
        | [] => .error (k.ahead .endInObject)
        | ',' :: _ => skipFields fuel (k.drop 1)
        | '\x7d' :: _ => .ok ((), k.drop 1)
        | _ => .error (k.ahead .expectedObjectEnd)

end

/-- Passes over the value at the cursor. -/
def skip (k : Cursor) : Step Unit := skipValue (2 * k.rest.length + 2) k

end ApiStencil.Json.Reader
