import ApiStencil.Decimal.Layout
import ApiStencil.Decimal.Read
import ApiStencil.Script.Access
/-!
Conversions between kinds of values. An object is first asked for a primitive value of its own.
-/
set_option autoImplicit false

namespace ApiStencil.Script

/-- The integer in front of the point. -/
def truncated (x : Float) : Int :=
  let b := Decimal.Binary.ofFloat x
  let magnitude :=
    if b.exponent ≥ 0 then b.mantissa * Nat.pow 2 b.exponent.toNat else b.mantissa / Nat.pow 2 (-b.exponent).toNat
  if Decimal.isNegative x then -(magnitude : Int) else magnitude

/-- The integer part as an integer; zero for what is no number. -/
def integerOf (x : Float) : Int :=
  if x.isNaN || x.isInf then 0
  else if -1e15 < x && x < 1e15 then x.toInt64.toInt
  else truncated x

def wrapUnsigned (bits : Nat) (n : Int) : Nat := (n % Int.pow 2 bits).toNat

def wrapSigned (bits : Nat) (n : Int) : Int := Int.bmod n (Nat.pow 2 bits)

/-- The value of digits behind a mark of their base. -/
def radixText? (cs : List Char) : Option Float :=
  let read := fun (base : Nat) (ds : List Char) =>
    (Decimal.ofBase? base ds).map fun n => Decimal.nearest (Nat.repr n).toList [] 0
  match cs with
  | '0' :: x :: ds =>
    match x.toLower with
    | 'x' => read 16 ds
    | 'o' => read 8 ds
    | 'b' => read 2 ds
    | _ => none
  | _ => none

def decimalText? (cs : List Char) : Option Float :=
  let unsigned := fun (cs : List Char) =>
    if cs == "Infinity".toList then some (1.0 / 0.0) else Decimal.unsignedFloat? cs
  match cs with
  | '-' :: rest => (unsigned rest).map fun x => -x
  | '+' :: rest => unsigned rest
  | _ => unsigned cs

/-- The number that a text stands for. -/
def textNumber (u : Units) : Float :=
  let cs := u.trimStart.trimEnd.toText.toList
  if cs.isEmpty then 0.0
  else ((radixText? cs) <|> (decimalText? cs)).getD (0.0 / 0.0)

def numberText (x : Float) : Units := txt (Decimal.script.render x)

/-- The integer that a text stands for. -/
def textBigint? (u : Units) : Option Int :=
  match u.trimStart.trimEnd.toText.toList with
  | [] => some 0
  | '-' :: rest => (Decimal.ofBase? 10 rest).map fun n => -(n : Int)
  | '+' :: rest => (Decimal.ofBase? 10 rest).map Int.ofNat
  | '0' :: x :: ds =>
    match x.toLower with
    | 'x' => (Decimal.ofBase? 16 ds).map Int.ofNat
    | 'o' => (Decimal.ofBase? 8 ds).map Int.ofNat
    | 'b' => (Decimal.ofBase? 2 ds).map Int.ofNat
    | _ => (Decimal.ofBase? 10 ('0' :: x :: ds)).map Int.ofNat
  | cs => (Decimal.ofBase? 10 cs).map Int.ofNat

inductive Hint where
  | none
  | number
  | text

def Hint.name : Hint → String
  | .none => "default"
  | .number => "number"
  | .text => "string"

namespace M

/-- The first of these methods that gives a primitive value. -/
def primitiveBy (v : Value) : List String → M Value
  | [] => typeError "toPrimitive"
  | name :: rest => do
    let f ← getNamed v name
    if ← isCallable f then
      let r ← call f v []
      if r.isObject then primitiveBy v rest else return r
    else primitiveBy v rest

def toPrimitive (v : Value) (hint : Hint) : M Value := do
  match v with
  | .object _ =>
    let f ← getMember v KnownSymbol.toPrimitive.key
    if !f.isNullish then
      let r ← callOrFail f v [.ofString hint.name]
      if r.isObject then typeError "toPrimitive" else return r
    else
      match hint with
      | .text => primitiveBy v ["toString", "valueOf"]
      | _ => primitiveBy v ["valueOf", "toString"]
  | v => return v

def primitiveNumber : Value → M Float
  | .undefined => return 0.0 / 0.0
  | .null => return 0.0
  | .bool b => return if b then 1.0 else 0.0
  | .number x => return x
  | .text u => return textNumber u
  | .symbol _ => typeError "cannot convert symbol to number"
  | .bigint _ => typeError "cannot convert BigInt to number"
  | .object _ => return 0.0 / 0.0

def toNumber (v : Value) : M Float := do
  match v with
  | .number x => return x
  | .object _ => primitiveNumber (← toPrimitive v .number)
  | v => primitiveNumber v

/-- A number, or an integer of any size. -/
def toNumeric (v : Value) : M Value := do
  match ← toPrimitive v .number with
  | .bigint n => return .bigint n
  | v => return .number (← primitiveNumber v)

def primitiveText : Value → M Units
  | .undefined => return txt "undefined"
  | .null => return txt "null"
  | .bool b => return txt (if b then "true" else "false")
  | .number x => return numberText x
  | .text u => return u
  | .symbol _ => typeError "cannot convert symbol to string"
  | .bigint n => return txt (toString n)
  | .object _ => return #[]

def toText (v : Value) : M Units := do
  match v with
  | .text u => return u
  | .object _ => primitiveText (← toPrimitive v .text)
  | v => primitiveText v

def toKey (v : Value) : M Key := do
  match v with
  | .text u => return .name u
  | .symbol n => return .symbol n
  | .object _ =>
    match ← toPrimitive v .text with
    | .symbol n => return .symbol n
    | v => return .name (← primitiveText v)
  | v => return .name (← primitiveText v)

/-- A number without its fraction; it is never the negative zero. Beyond 2⁵³ no number has a fraction. -/
def wholePart (x : Float) : Float :=
  let size := if x.abs < 9007199254740992.0 then x.abs.toUInt64.toFloat else x.abs
  if x < 0.0 then 0.0 - size else size

/-- An integer, or an infinity. -/
def toInteger (v : Value) : M Float := do
  let x ← toNumber v
  return if x.isNaN then 0.0 else wholePart x

/-- The largest integer below which all are numbers. -/
def maxLength : Nat := 9007199254740991

def toLength (v : Value) : M Nat := do
  let x ← toInteger v
  if x ≤ 0.0 then return 0
  else if x ≥ 9007199254740991.0 then return maxLength
  else return x.toUInt64.toNat

/-- A place in a sequence of `size` items, counted from its end if it is negative. -/
def toPlace (v : Value) (size : Nat) (otherwise : Nat) : M Nat := do
  match v with
  | .undefined => return otherwise
  | v =>
    let x ← toInteger v
    if x < 0.0 then
      let y := x + Float.ofNat size
      return if y < 0.0 then 0 else y.toUInt64.toNat
    else return if x ≥ Float.ofNat size then size else x.toUInt64.toNat

/-- A place in a sequence of `size` items; all below zero is its start. -/
def toClamped (v : Value) (size : Nat) (otherwise : Nat) : M Nat := do
  match v with
  | .undefined => return otherwise
  | v =>
    let x ← toInteger v
    return if x ≤ 0.0 then 0 else if x ≥ Float.ofNat size then size else x.toUInt64.toNat

def toInt32 (v : Value) : M Int := do
  return wrapSigned 32 (integerOf (← toNumber v))

def toUint32 (v : Value) : M Nat := do
  return wrapUnsigned 32 (integerOf (← toNumber v))

def toObject (v : Value) : M Nat := do
  match v with
  | .object r => return r
  | .undefined | .null => typeError "Cannot convert undefined or null to object"
  | .bool b => newPlain (.proto .bool) (.bool b)
  | .number x => newPlain (.proto .number) (.number x)
  | .text u => newPlain (.proto .text) (.text u)
  | .symbol n => newPlain (.proto .symbol) (.symbol n)
  | .bigint n => newPlain (.proto .bigint) (.bigint n)

def toBigint (v : Value) : M Int := do
  match ← toPrimitive v .number with
  | .bigint n => return n
  | .bool b => return if b then 1 else 0
  | .text u =>
    match textBigint? u with
    | some n => return n
    | none => fail .syntaxKind "invalid BigInt literal"
  | _ => typeError "cannot convert to BigInt"

/-- The lowest bytes of a number, lowest first. -/
def bytesOf : Nat → Nat → List UInt8
  | 0, _ => []
  | w + 1, n => (n % 256).toUInt8 :: bytesOf w (n / 256)

/-- To the nearest integer from 0 to 255, a half to the even one. -/
def clampByte (x : Float) : Nat :=
  if !(x > 0.0) then 0
  else if x ≥ 255.0 then 255
  else
    let f := x.floor
    let n := f.toUInt64.toNat
    if x - f < 0.5 then n else if x - f > 0.5 then n + 1 else if n % 2 == 0 then n else n + 1

def elementBytes (t : ViewType) (v : Value) : M (List UInt8) := do
  match t with
  | .bigInt64 | .bigUint64 => return bytesOf 8 (wrapUnsigned 64 (← toBigint v))
  | .float64 => return bytesOf 8 (← toNumber v).toBits.toNat
  | .float32 => return bytesOf 4 (← toNumber v).toFloat32.toBits.toNat
  | .uint8Clamped => return bytesOf 1 (clampByte (← toNumber v))
  | t => return bytesOf t.width (wrapUnsigned (8 * t.width) (integerOf (← toNumber v)))

def storeElement (t : ViewType) (buffer offset i : Nat) (v : Value) : M Unit := do
  writeView t buffer offset i (← elementBytes t v)

def setFrom (r : Nat) (k : Key) (v this : Value) : M Outcome :=
  setAt (fun t buffer offset i v => storeElement t buffer offset i v) reach r k v this

/-- Reports an assignment that was not possible. -/
def settle (k : Key) (o : Outcome) : M Unit := do
  match o with
  | .done => return ()
  | .readOnly => typeError s!"'{← keyName k}' is read-only"
  | .noSetter => typeError "no setter for property"
  | .notExtensible => typeError "object is not extensible"
  | .notObject => typeError "not an object"
  | .refused => typeError "proxy: cannot set property"

/-- Puts `v` in place of an ordinary element or at the end of an array, if it is that simple. -/
def quickPut (r : Nat) (x : Float) (v : Value) : M Bool := do
  match (← object r).kind with
  | .array items =>
    if 0.0 ≤ x && x < Float.ofNat items.size && x.floor == x then
      modifyObject r fun o =>
        match o.kind with
        | .array items => { o with kind := .array (items.setIfInBounds x.toUInt64.toNat v) }
        | _ => o
      return true
    else return false
  | _ => return false

def putMember (v : Value) (k : Key) (new : Value) : M Unit := do
  match v with
  | .object r => settle k (← setFrom r k new v)
  | _ =>
    match protoOfPrimitive? v with
    | some p => settle k (← setFrom p.ref k new v)
    | none => typeError s!"cannot set property '{← keyName k}' of {nullishName v}"

def putNamed (v : Value) (name : String) (new : Value) : M Unit := putMember v (.ofString name) new

/-- The property under a key that is a value. -/
def getIndex (v k : Value) : M Value := do
  match v, k with
  | .object r, .number x =>
    match (← object r).kind with
    | .array items =>
      if 0.0 ≤ x && x < Float.ofNat items.size && x.floor == x then
        return items.getD x.toUInt64.toNat .undefined
      else getMember v (← toKey k)
    | _ => getMember v (← toKey k)
  | .text u, .number x =>
    if 0.0 ≤ x && x < Float.ofNat u.size && x.floor == x then return .text #[u.getD x.toUInt64.toNat 0]
    else getMember v (← toKey k)
  | _, _ =>
    if v.isNullish then
      let k ← toKey k
      typeError s!"cannot read property '{← keyName k}' of {nullishName v}"
    else getMember v (← toKey k)

def putIndex (v k new : Value) : M Unit := do
  match v, k with
  | .object r, .number x => if ← quickPut r x new then return () else putMember v (← toKey k) new
  | _, _ => putMember v (← toKey k) new

def lengthOf (v : Value) : M Nat := do
  match v with
  | .object r =>
    match (← object r).kind with
    | .array items => return items.size
    | _ => toLength (← getMember v lengthKey)
  | v => toLength (← getMember v lengthKey)

/-- The items of an object that is like an array. -/
def itemsOf (v : Value) : M (List Value) := do
  let n ← lengthOf v
  (List.range n).mapM fun i => getMember v (.ofIndex i)

end M
end ApiStencil.Script
