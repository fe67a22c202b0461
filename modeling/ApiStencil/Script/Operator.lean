import ApiStencil.Decimal.Remainder
import ApiStencil.Script.Iterate
/-!
What operators do to values: arithmetic on numbers and on integers of any size, comparison, equality,
and the tests for members and classes.
-/
set_option autoImplicit false

namespace ApiStencil.Script

/-- Enough bits for both integers and their sign. -/
def commonBits (a b : Int) : Nat := max a.natAbs.log2 b.natAbs.log2 + 2

/-- An operation on bits of integers that go on to the left without end. -/
def onBits (f : Nat → Nat → Nat) (a b : Int) : Int :=
  let bits := commonBits a b
  wrapSigned bits (f (wrapUnsigned bits a) (wrapUnsigned bits b))

/-- A power; one to a power that is no finite number is no number. -/
def numberPower (x y : Float) : Float :=
  if y.isNaN || (y.isInf && x.abs == 1.0) then 0.0 / 0.0
  else if y == 0.0 then 1.0
  else x.pow y

def shiftedLeft (n : Int) (by_ : Int) : Int :=
  if by_ ≥ 0 then n * Int.pow 2 by_.toNat else n / Int.pow 2 (-by_).toNat

def looseNumber? : Value → Option Float
  | .number x => some x
  | .bool b => some (if b then 1.0 else 0.0)
  | .text u => some (textNumber u)
  | _ => none

def strictEqual : Value → Value → Bool
  | .number a, .number b => a == b
  | a, b => sameValue a b

/-- The order of an integer and a number; nothing where there is none. -/
def compareMixed (n : Int) (x : Float) : Option Ordering :=
  if x.isNaN then none
  else if x.isInf then some (if x > 0.0 then .lt else .gt)
  else
    let whole := truncated x
    match compare n whole with
    | .eq => some (if x == x.floor then .eq else if x > 0.0 then .lt else .gt)
    | o => some o

/-- The order of numbers; nothing where one of them is none. -/
def compareNumbers (x y : Float) : Option Ordering :=
  if x.isNaN || y.isNaN then none
  else some (if x < y then .lt else if x == y then .eq else .gt)

namespace M

/-- How many bits an integer may have. -/
def maxBits : Nat := 1048576

def bigintPower (a b : Int) : M Int := do
  if b < 0 then rangeError "BigInt negative exponent"
  if a.natAbs > 1 && a.natAbs.log2 * b.toNat > maxBits then rangeError "BigInt is too large to allocate"
  return a.pow b.toNat

def bigintShift (a by_ : Int) : M Int := do
  if by_ > maxBits then rangeError "BigInt is too large to allocate"
  if -by_ > maxBits then return if a < 0 then -1 else 0
  return shiftedLeft a by_

def onBigints (op : BinaryOp) (a b : Int) : M Value := do
  match op with
  | .add => return .bigint (a + b)
  | .sub => return .bigint (a - b)
  | .mul => return .bigint (a * b)
  | .div => if b == 0 then rangeError "BigInt division by zero" else return .bigint (a.tdiv b)
  | .rem => if b == 0 then rangeError "BigInt division by zero" else return .bigint (a.tmod b)
  | .power => return .bigint (← bigintPower a b)
  | .shiftLeft => return .bigint (← bigintShift a b)
  | .shiftRight => return .bigint (← bigintShift a (-b))
  | .bitAnd => return .bigint (onBits (· &&& ·) a b)
  | .bitOr => return .bigint (onBits (· ||| ·) a b)
  | .bitXor => return .bigint (onBits (· ^^^ ·) a b)
  | _ => typeError "BigInt operands are forbidden for >>>"

def onNumbers (op : BinaryOp) (x y : Float) : Value :=
  let left := wrapSigned 32 (integerOf x)
  let shift := wrapUnsigned 32 (integerOf y) % 32
  match op with
  | .add => .number (x + y)
  | .sub => .number (x - y)
  | .mul => .number (x * y)
  | .div => .number (x / y)
  | .rem => .number (Decimal.remainder x y)
  | .power => .number (numberPower x y)
  | .shiftLeft => .ofInt (wrapSigned 32 (left * Int.pow 2 shift))
  | .shiftRight => .ofInt (left / Int.pow 2 shift)
  | .shiftRightZero => .ofNat (wrapUnsigned 32 (integerOf x) / Nat.pow 2 shift)
  | .bitAnd => .ofInt (onBits (· &&& ·) left (wrapSigned 32 (integerOf y)))
  | .bitOr => .ofInt (onBits (· ||| ·) left (wrapSigned 32 (integerOf y)))
  | .bitXor => .ofInt (onBits (· ^^^ ·) left (wrapSigned 32 (integerOf y)))
  | _ => .undefined

def arithmetic (op : BinaryOp) (a b : Value) : M Value := do
  match a, b with
  | .number x, .number y => return onNumbers op x y
  | _, _ =>
    let a ← toNumeric a
    let b ← toNumeric b
    match a, b with
    | .number x, .number y => return onNumbers op x y
    | .bigint x, .bigint y => onBigints op x y
    | _, _ => typeError "both operands must be BigInt"

/-- How long a text may be. -/
def maxText : Nat := 4194304

/-- Long texts take the time of many steps, and there is a limit to their length. -/
def weigh (size : Nat) : M Unit := do
  if size > maxText then rangeError "invalid string length"
  if size > 256 then spend (size / 256)

def appendTexts (u v : Units) : M Value := do
  weigh (u.size + v.size)
  return .text (u ++ v)

def addValues (a b : Value) : M Value := do
  match a, b with
  | .number x, .number y => return .number (x + y)
  | _, _ =>
    let a ← toPrimitive a .none
    let b ← toPrimitive b .none
    match a, b with
    | .text u, .text v => appendTexts u v
    | .text u, _ => appendTexts u (← primitiveText b)
    | _, .text v => appendTexts (← primitiveText a) v
    | _, _ => arithmetic .add a b

/-- The order of two primitive values; nothing where one is no number. -/
def orderOf (a b : Value) : M (Option Ordering) := do
  match a, b with
  | .text u, .text v => return some (if u == v then .eq else if u.before v then .lt else .gt)
  | .bigint n, .text u => return (textBigint? u).map (compare n ·)
  | .text u, .bigint n => return (textBigint? u).map (compare · n)
  | _, _ =>
    match ← toNumeric a, ← toNumeric b with
    | .bigint n, .bigint m => return some (compare n m)
    | .bigint n, .number x => return compareMixed n x
    | .number x, .bigint n => return (compareMixed n x).map Ordering.swap
    | .number x, .number y => return compareNumbers x y
    | _, _ => return none

/-- The order of two values; the left one is asked for its primitive value first. -/
def compareValues (a b : Value) : M (Option Ordering) := do
  match a, b with
  | .number x, .number y => return compareNumbers x y
  | _, _ =>
    let a ← toPrimitive a .number
    let b ← toPrimitive b .number
    orderOf a b

/-- Equality of values of which none is an object, or both are. -/
def looseEqualFlat (a b : Value) : Bool :=
  match a, b with
  | .undefined, .null | .null, .undefined => true
  | .bigint n, .text u | .text u, .bigint n => (textBigint? u).any (· == n)
  | .bigint n, b =>
    match b with
    | .bigint m => n == m
    | b => (looseNumber? b).any fun x => compareMixed n x == some .eq
  | a, .bigint n => (looseNumber? a).any fun x => compareMixed n x == some .eq
  | .text u, .text v => u == v
  | a, b =>
    match looseNumber? a, looseNumber? b with
    | some x, some y => x == y
    | _, _ => sameValue a b

def looseEqual (a b : Value) : M Bool := do
  match a, b with
  | .object x, .object y => return x == y
  | .object _, b =>
    if b.isNullish then return false else return looseEqualFlat (← toPrimitive a .none) b
  | a, .object _ =>
    if a.isNullish then return false else return looseEqualFlat a (← toPrimitive b .none)
  | a, b => return looseEqualFlat a b

/-- Whether an object inherits from what instances of `f` inherit from. -/
def instanceBy : Nat → Value → Value → M Bool
  | 0, _, _ => return false
  | n + 1, v, f => do
    match ← kind? f with
    | some (.bound target _ _) => instanceBy n v target
    | _ =>
      match v with
      | .object r =>
        match ← getNamed f "prototype" with
        | .object p => behind reach r p
        | _ => typeError "operand 'prototype' property is not an object"
      | _ => return false
where
  behind : Nat → Nat → Nat → M Bool
    | 0, _, _ => return false
    | n + 1, r, p => do
      match ← proto? r with
      | none => return false
      | some q => if q == p then return true else behind n q p

/-- Whether `f` is a function that inherits the test of all functions. -/
def instanceOf (v f : Value) : M Bool := do
  if !f.isObject then typeError "invalid 'instanceof' right operand"
  match ← method? f KnownSymbol.hasInstance.key with
  | some test => return truthy (← call test f [v])
  | none =>
    if !(← isCallable f) then typeError "invalid 'instanceof' right operand"
    instanceBy reach v f

def hasMember (k o : Value) : M Bool := do
  match o with
  | .object r => hasKey r (← toKey k)
  | _ => typeError "invalid 'in' operand"

def binary (op : BinaryOp) (a b : Value) : M Value := do
  match op with
  | .add => addValues a b
  | .strictEq => return .bool (strictEqual a b)
  | .strictNe => return .bool (!strictEqual a b)
  | .looseEq => return .bool (← looseEqual a b)
  | .looseNe => return .bool (!(← looseEqual a b))
  | .lt => return .bool ((← compareValues a b) == some .lt)
  | .gt => return .bool ((← compareValues a b) == some .gt)
  | .le => return .bool ((← compareValues a b).any (· != .gt))
  | .ge => return .bool ((← compareValues a b).any (· != .lt))
  | .member => return .bool (← hasMember a b)
  | .ofClass => return .bool (← instanceOf a b)
  | op => arithmetic op a b

def kindName (v : Value) : M String := do
  match v with
  | .undefined => return "undefined"
  | .null => return "object"
  | .bool _ => return "boolean"
  | .number _ => return "number"
  | .text _ => return "string"
  | .symbol _ => return "symbol"
  | .bigint _ => return "bigint"
  | .object _ => return if ← isCallable v then "function" else "object"

def unary (op : UnaryOp) (v : Value) : M Value := do
  match op with
  | .minus =>
    match ← toNumeric v with
    | .bigint n => return .bigint (-n)
    | .number x => return .number (-x)
    | v => return v
  | .plus =>
    match v with
    | .bigint _ => typeError "BigInt argument with unary +"
    | v => return .number (← toNumber v)
  | .not => return .bool (!truthy v)
  | .complement =>
    match ← toNumeric v with
    | .bigint n => return .bigint (-n - 1)
    | .number x => return .ofInt (-(wrapSigned 32 (integerOf x)) - 1)
    | v => return v
  | .kindOf => return .ofString (← kindName v)
  | .void => return .undefined

/-- One more or one less, and the number before. -/
def stepped (up : Bool) (v : Value) : M (Value × Value) := do
  match ← toNumeric v with
  | .bigint n => return (.bigint n, .bigint (if up then n + 1 else n - 1))
  | .number x => return (.number x, .number (if up then x + 1.0 else x - 1.0))
  | v => return (v, v)

end M
end ApiStencil.Script
