import ApiStencil.Json.Basic
import ApiStencil.Json.Cursor
import ApiStencil.Decimal.Read
/-!
Reading JSON text. A step takes the cursor and gives a value with the cursor behind it, or the first
fault. The last value of a repeated field counts.
-/
set_option autoImplicit false

namespace ApiStencil.Json

abbrev Step (α : Type) := Except Fault (α × Cursor)

/-- Most arrays and objects that may stand inside one another. -/
def maxDepth : Nat := 127

namespace Reader

/-- The rest of a literal whose first letter is behind the cursor. -/
def ident (k : Cursor) : List Char → Step Unit
  | [] => .ok ((), k)
  | want :: wants =>
    match k.rest with
    | [] => .error (k.here .endInValue)
    | c :: rest =>
      let k' := k.past c rest
      if c == want then ident k' wants else .error (k'.here .expectedIdent)

def digits (k : Cursor) : List Char × Cursor :=
  let (ds, _) := Decimal.spanDigits k.rest
  (ds, k.drop ds.length)

def withSign (negative : Bool) (x : Float) : Float :=
  if negative then -x else x

/-- A float from its parts, unless it is beyond every finite double. -/
def float (negative : Bool) (whole fraction : List Char) (exponent : Int) (k : Cursor) : Step Number :=
  let x := Decimal.nearest whole fraction exponent
  if x.isInf then .error (k.here .numberOutOfRange)
  else .ok (.float (withSign negative x), k)

def exponent (negative : Bool) (whole fraction : List Char) (k : Cursor) : Step Number :=
  let (down, k) : Bool × Cursor :=
    match k.rest with
    | '-' :: rest => (true, k.past '-' rest)
    | '+' :: rest => (false, k.past '+' rest)
    | _ => (false, k)
  match k.rest with
  | [] => .error (k.here .endInValue)
  | c :: rest =>
    if !c.isDigit then .error ((k.past c rest).here .invalidNumber)
    else
      let (ds, k) := digits k
      let e : Int := Decimal.naturalOf ds
      float negative whole fraction (if down then -e else e) k

def fraction (negative : Bool) (whole : List Char) (k : Cursor) : Step Number :=
  let (ds, k) := digits k
  if ds.isEmpty then
    .error (k.ahead (if k.rest.isEmpty then .endInValue else .invalidNumber))
  else
    match k.rest with
    | 'e' :: rest => exponent negative whole ds (k.past 'e' rest)
    | 'E' :: rest => exponent negative whole ds (k.past 'E' rest)
    | _ => float negative whole ds 0 k

/-- A whole number, read as a float where the integers do not reach or where it is `-0`. -/
def whole (negative : Bool) (ds : List Char) (k : Cursor) : Step Number :=
  let n : Int := Decimal.naturalOf ds
  if negative then
    if n == 0 || -n < Number.minInt then float true ds [] 0 k else .ok (.int (-n), k)
  else if n ≤ Number.maxNat then .ok (.int n, k)
  else float false ds [] 0 k

/-- A number whose sign, if any, is behind the cursor. -/
def number (negative : Bool) (k : Cursor) : Step Number :=
  match k.rest with
  | [] => .error (k.here .endInValue)
  | c :: rest =>
    if !c.isDigit then .error ((k.past c rest).here .invalidNumber)
    else
      let (ds, k) : List Char × Cursor := if c == '0' then (['0'], k.past c rest) else digits k
      match k.rest with
      | '.' :: rest => fraction negative ds (k.past '.' rest)
      | 'e' :: rest => exponent negative ds [] (k.past 'e' rest)
      | 'E' :: rest => exponent negative ds [] (k.past 'E' rest)
      | d :: _ => if d.isDigit then .error (k.ahead .invalidNumber) else whole negative ds k
      | [] => whole negative ds k

/-- Four hexadecimal digits of an escape. -/
def hexUnit (k : Cursor) : Step Nat :=
  match k.rest with
  | a :: b :: c :: d :: _ =>
    let k := k.drop 4
    match Decimal.ofBase? 16 [a, b, c, d] with
    | some n => .ok (n, k)
    | none => .error (k.here .invalidEscape)
  | _ => .error ((k.drop 4).here .endInString)

/-- The escape whose `\u` is behind the cursor; units outside the basic plane come in pairs. -/
def unicodeEscape (k : Cursor) : Step Char :=
  match hexUnit k with
  | .error e => .error e
  | .ok (n, k) =>
    if 0xdc00 ≤ n && n ≤ 0xdfff then .error (k.here .loneSurrogate)
    else if n < 0xd800 || 0xdbff < n then .ok (Char.ofNat n, k)
    else
      match k.rest with
      | [] => .error (k.here .endInString)
      | '\\' :: rest =>
        let k := k.past '\\' rest
        match k.rest with
        | [] => .error (k.here .endInString)
        | 'u' :: rest =>
          match hexUnit (k.past 'u' rest) with
          | .error e => .error e
          | .ok (m, k) =>
            if m < 0xdc00 || 0xdfff < m then .error (k.here .loneSurrogate)
            else .ok (Char.ofNat (0x10000 + (n - 0xd800) * 1024 + (m - 0xdc00)), k)
        | c :: rest => .error ((k.past c rest).here .unpairedEscape)
      | c :: rest => .error ((k.past c rest).here .unpairedEscape)

def escape (k : Cursor) : Step Char :=
  match k.rest with
  | [] => .error (k.here .endInString)
  | c :: rest =>
    let k := k.past c rest
    match c with
    | '"' | '\\' | '/' => .ok (c, k)
    | 'b' => .ok ('\x08', k)
    | 'f' => .ok ('\x0c', k)
    | 'n' => .ok ('\n', k)
    | 'r' => .ok ('\r', k)
    | 't' => .ok ('\t', k)
    | 'u' => unicodeEscape k
    | _ => .error (k.here .invalidEscape)

/-- The characters of a string whose opening quote is behind the cursor. -/
def characters : Nat → List Char → Cursor → Step String
  | 0, _, k => .error (k.here .endInString)
  | fuel + 1, acc, k =>
    match k.rest with
    | [] => .error (k.here .endInString)
    | c :: rest =>
      let k := k.past c rest
      if c == '"' then .ok (String.ofList acc.reverse, k)
      else if c == '\\' then
        match escape k with
        | .error e => .error e
        | .ok (c, k) => characters fuel (c :: acc) k
      else if c.toNat < 32 then .error (k.here .controlCharacter)
      else characters fuel (c :: acc) k

def string (k : Cursor) : Step String :=
  characters (k.rest.length + 1) [] k

/-- A field name, with the cursor at its opening quote. -/
def key (k : Cursor) : Step String :=
  string (k.drop 1)

def colon (k : Cursor) : Step Unit :=
  let k := k.skipSpace
  match k.rest with
  | ':' :: rest => .ok ((), k.past ':' rest)
  | [] => .error (k.ahead .endInObject)
  | _ => .error (k.ahead .expectedColon)

/-- Whether another item stands before the end of an array, with the cursor at it. -/
def nextItem (first : Bool) (k : Cursor) : Step Bool :=
  let k := k.skipSpace
  match k.rest with
  | [] => .error (k.ahead .endInList)
  | ']' :: _ => .ok (false, k)
  | c :: rest =>
    if first then .ok (true, k)
    else if c == ',' then
      let k := (k.past c rest).skipSpace
      match k.rest with
      | [] => .error (k.ahead .endInValue)
      | ']' :: _ => .error (k.ahead .trailingComma)
      | _ => .ok (true, k)
    else .error (k.ahead .expectedListEnd)

/-- Whether another field stands before the end of an object, with the cursor at its name. -/
def nextField (first : Bool) (k : Cursor) : Step Bool :=
  let k := k.skipSpace
  match k.rest with
  | [] => .error (k.ahead .endInObject)
  | c :: rest =>
    if c == '\x7d' then .ok (false, k)
    else if first then
      if c == '"' then .ok (true, k) else .error (k.ahead .keyNotString)
    else if c == ',' then
      let k := (k.past c rest).skipSpace
      match k.rest with
      | [] => .error (k.ahead .endInValue)
      | '"' :: _ => .ok (true, k)
      | d :: _ => .error (k.ahead (if d == '\x7d' then .trailingComma else .keyNotString))
    else .error (k.ahead .expectedObjectEnd)

mutual

/-- One value; `depth` more arrays and objects may be opened. -/
def value : Nat → Nat → Cursor → Step Json
  | 0, _, k => .error (k.here .endInValue)
  | fuel + 1, depth, k =>
    let k := k.skipSpace
    match k.rest with
    | [] => .error (k.ahead .endInValue)
    | c :: rest =>
      let next := k.past c rest
      match c with
      | 'n' => (ident next "ull".toList).map fun (_, k) => (.null, k)
      | 't' => (ident next "rue".toList).map fun (_, k) => (.bool true, k)
      | 'f' => (ident next "alse".toList).map fun (_, k) => (.bool false, k)
      | '-' => (number true next).map fun (n, k) => (.number n, k)
      | '"' => (string next).map fun (s, k) => (.string s, k)
      | '[' =>
        match depth with
        | 0 => .error (k.ahead .tooDeep)
        | depth + 1 => items fuel depth true [] next
      | '\x7b' =>
        match depth with
        | 0 => .error (k.ahead .tooDeep)
        | depth + 1 => fields fuel depth true [] next
      | c =>
        if c.isDigit then (number false k).map fun (n, k) => (.number n, k)
        else .error (k.ahead .expectedValue)

def items : Nat → Nat → Bool → List Json → Cursor → Step Json
  | 0, _, _, _, k => .error (k.here .endInList)
  | fuel + 1, depth, first, acc, k =>
    match nextItem first k with
    | .error e => .error e
    | .ok (false, k) => .ok (.array acc.reverse, k.drop 1)
    | .ok (true, k) =>
      match value fuel depth k with
      | .error e => .error e
      | .ok (v, k) => items fuel depth false (v :: acc) k

def fields : Nat → Nat → Bool → List (String × Json) → Cursor → Step Json
  | 0, _, _, _, k => .error (k.here .endInObject)
  | fuel + 1, depth, first, acc, k =>
    match nextField first k with
    | .error e => .error e
    | .ok (false, k) => .ok (.object acc, k.drop 1)
    | .ok (true, k) =>
      match key k with
      | .error e => .error e
      | .ok (name, k) =>
        match colon k with
        | .error e => .error e
        | .ok (_, k) =>
          match value fuel depth k with
          | .error e => .error e
          | .ok (v, k) => fields fuel depth false (insertField name v acc) k

end

/-- Nothing but white space may follow. -/
def finish {α : Type} (a : α) (k : Cursor) : Except Fault α :=
  let k := k.skipSpace
  if k.rest.isEmpty then .ok a else .error (k.ahead .trailingCharacters)

end Reader

/-- The value of a JSON text. -/
def parse (text : String) : Except Fault Json :=
  let k := Cursor.ofString text
  match Reader.value (2 * k.rest.length + 2) maxDepth k with
  | .error e => .error e
  | .ok (v, k) => Reader.finish v k

end ApiStencil.Json
