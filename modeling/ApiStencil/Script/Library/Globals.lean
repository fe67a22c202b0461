import ApiStencil.Script.Enrolment
import ApiStencil.Script.Library.Notation
import ApiStencil.Text.Utf8
/-!
Functions that are in view everywhere: running a text as a script, escapes of locations, the console,
and the registration of commands.
-/
set_option autoImplicit false

namespace ApiStencil.Script.Library.Globals
open M

def home : Intrinsic := .fixture .global

def evaluate (c : Call) : M Value := do
  match c.arg 0 with
  | .text u => (← read).evaluate u none
  | v => return v

def hexByte (n : Nat) : Units :=
  let digit := fun d : Nat => if d < 10 then (48 + d).toUInt16 else (55 + d).toUInt16
  #[37, digit (n / 16), digit (n % 16)]

def isPlain (extra : String) (n : Nat) : Bool :=
  n < 128 && ((Char.ofNat n).isAlphanum || extra.toList.contains (Char.ofNat n))

/-- Signs that have a part in a whole location, besides those that are always plain. -/
def locationSigns : String := ";/?:@&=+$,#"

def plainSigns : String := "-_.!~*\x27()"

def encode (extra : String) (c : Call) : M Value := do
  let u ← toText (c.arg 0)
  let parts ← u.points.mapM fun n => do
    if isPlain extra n then return #[n.toUInt16]
    else if n.isValidChar then
      return Units.concat ((String.utf8EncodeChar (Char.ofNat n)).map fun b => hexByte b.toNat)
    else fail .uri "invalid character"
  text (Units.concat parts)

def byteAt? (u : Units) (i : Nat) : Option Nat :=
  if u[i]? == some 37 && i + 3 ≤ u.size then
    Decimal.ofBase? 16 ((u.extract (i + 1) (i + 3)).toList.map fun w => Units.charOf w.toNat)
  else none

/-- How many bytes follow the first byte of a character. -/
def following? (b : Nat) : Option Nat :=
  if b < 0x80 then some 0
  else if 0xc2 ≤ b && b < 0xe0 then some 1
  else if 0xe0 ≤ b && b < 0xf0 then some 2
  else if 0xf0 ≤ b && b < 0xf5 then some 3
  else none

def malformed {α : Type} : M α := fail .uri "malformed URI sequence"

/-- Undoes escapes, but those of `kept` signs. -/
def decodeFrom (kept : String) (u : Units) : Nat → Nat → Units → M Units
  | 0, _, acc => return acc
  | n + 1, i, acc => do
    match u[i]? with
    | none => return acc
    | some w =>
      if w != 37 then decodeFrom kept u n (i + 1) (acc.push w)
      else
        match byteAt? u i with
        | none => fail .uri "expecting hex digit"
        | some b =>
          match following? b with
          | none => malformed
          | some 0 =>
            if kept.toList.contains (Char.ofNat b) then
              decodeFrom kept u n (i + 3) (acc ++ u.extract i (i + 3))
            else decodeFrom kept u n (i + 3) (acc.push b.toUInt16)
          | some k =>
            let bytes := b :: (List.range k).filterMap fun j => byteAt? u (i + 3 * (j + 1))
            match Utf8.decode? (bytes.map Nat.toUInt8) with
            | some s =>
              if bytes.length == k + 1 then decodeFrom kept u n (i + 3 * (k + 1)) (acc ++ Units.ofString s)
              else malformed
            | none => malformed

def decode (kept : String) (c : Call) : M Value := do
  let u ← toText (c.arg 0)
  text (← decodeFrom kept u (u.size + 1) 0 #[])

def escape (c : Call) : M Value := do
  let u ← toText (c.arg 0)
  let part := fun (w : UInt16) =>
    if isPlain "@*_+-./" w.toNat then #[w]
    else if w < 256 then hexByte w.toNat
    else txt "%u" ++ (hexByte (w.toNat / 256)).extract 1 3 ++ (hexByte (w.toNat % 256)).extract 1 3
  text (Units.concat (u.toList.map part))

def unescapeFrom (u : Units) : Nat → Nat → Units → Units
  | 0, _, acc => acc
  | n + 1, i, acc =>
    match u[i]? with
    | none => acc
    | some w =>
      let long := if w == 37 && u[i + 1]? == some 117 then Notation.hexAt? u (i + 2) else none
      match long, byteAt? u i with
      | some m, _ => unescapeFrom u n (i + 6) (acc.push m.toUInt16)
      | none, some m => unescapeFrom u n (i + 3) (acc.push m.toUInt16)
      | none, none => unescapeFrom u n (i + 1) (acc.push w)

def unescape (c : Call) : M Value := do
  let u ← toText (c.arg 0)
  text (unescapeFrom u (u.size + 1) 0 #[])

/-- The plain text of a value; a value that has none counts as missing. -/
def plainText (v : Value) : M String := do
  match ← settled (do return .text (← toText v)) with
  | .fulfilled (.text u) => return if u.points.all Nat.isValidChar then u.toText else "undefined"
  | _ => return "undefined"

/-- A value as it is written to the console: as JSON text, or else as plain text. -/
def consoleText (v : Value) : M String := do
  let json := do
    match ← Notation.textOf Notation.plainStyle v with
    | some u => return Value.text u
    | none => return .undefined
  match ← settled json with
  | .fulfilled (.text u) => return u.toText
  | _ => plainText v

def write (level : Console.Level) (c : Call) : M Value := do
  let parts ← c.args.mapM consoleText
  writeLine ⟨level, String.join parts⟩
  undefined

/-- The kind of a value in complaints about what is passed between scripts and their host. -/
def kindText (v : Value) : M String := do
  match v with
  | .undefined => return "undefined"
  | .null => return "null"
  | .bool _ => return "bool"
  | .number x => return if x.floor == x && x.abs ≤ 2147483647.0 then "int" else "float"
  | .text _ => return "string"
  | .symbol _ => return "symbol"
  | .bigint _ => return "big_int"
  | .object r =>
    if ← Arrays.isArray v then return "array"
    if ← isCallable v then return if ← isConstructor v then "constructor" else "function"
    match ← kindOf r with
    | .promise _ => return "promise"
    | .error => return "exception"
    | _ => return "object"

def wrongKind {α : Type} (v : Value) (wanted : String) : M α := do
  typeError s!"Error converting from js '{← kindText v}' into type '{wanted}'"

/-- The array that holds the functions of commands. -/
def slotsArray : M Value := do
  let slots ← getFrom Store.globalRef Obj.tableKey (.object Store.globalRef)
  if !(← Arrays.isArray slots) then wrongKind slots "array"
  return slots

/-- What a call is to register, and the array that it is to stand in. -/
def registration (c : Call) : M (Value × Registration) := do
  let n := c.args.length
  if n < 2 then typeError s!"Error calling function with {n} argument(s) while 2 where expected"
  let name ← toText (c.arg 0)
  if !(← isCallable (c.arg 1)) then wrongKind (c.arg 1) "function"
  return (← slotsArray, ⟨name.toText, c.arg 1⟩)

/-- Adds a function to the commands of the script. -/
def register (c : Call) : M Value := do
  enrol (registration c)
  undefined

def rows : List Native :=
  [.inner .evaluate "eval" 1 evaluate, .method home "decodeURI" 1 (decode locationSigns),
    .method home "decodeURIComponent" 1 (decode ""), .method home "encodeURI" 1 (encode (plainSigns ++ locationSigns)),
    .method home "encodeURIComponent" 1 (encode plainSigns), .method home "escape" 1 escape,
    .method home "unescape" 1 unescape, .method home "queueMicrotask" 1 (fun c => do
      needFunction (c.arg 0)
      undefined)] ++
  Console.Level.all.map (fun l => .listed (.fixture .console) l.name 0 (write l)) ++
  [.listed home "registerTemplateCommand" 2 register]

end ApiStencil.Script.Library.Globals
