import ApiStencil.Script.Library.Native
/-!
Functions on numbers.
-/
set_option autoImplicit false

namespace ApiStencil.Script.Library.Mathematics
open M

def home : Intrinsic := .fixture .math

def onOne (name : String) (f : Float → Float) : Native :=
  .method home name 1 fun c => do return .number (f (← toNumber (c.arg 0)))

/-- Halves go up; a small negative number becomes negative zero. -/
def round (x : Float) : Float :=
  let f := x.floor
  let r := if x - f ≥ 0.5 then f + 1.0 else f
  if r == 0.0 && (x < 0.0 || 1.0 / x < 0.0) then -0.0 else r

def sign (x : Float) : Float := if x > 0.0 then 1.0 else if x < 0.0 then -1.0 else x

def truncate (x : Float) : Float := if x < 0.0 then x.ceil else x.floor

/-- A cube of a whole number has that number as its root. -/
def cubeRoot (x : Float) : Float :=
  let y := x.cbrt
  let r := y.round
  if r * r * r == x then r else y

/-- The logarithm of one more than `x`, also near zero. -/
def logOfMore (x : Float) : Float :=
  let u := 1.0 + x
  if u == 1.0 then x else if u.isInf then x.log else u.log * x / (u - 1.0)

/-- One less than the exponential, also near zero. -/
def expLess (x : Float) : Float :=
  let u := x.exp
  if u == 1.0 then x
  else if u - 1.0 == -1.0 then -1.0
  else if u.isInf then u
  else (u - 1.0) * x / u.log

/-- The larger of two numbers; zero is larger than negative zero. -/
def larger (a b : Float) : Float :=
  if a.isNaN || b.isNaN then 0.0 / 0.0
  else if a == 0.0 && b == 0.0 then if 1.0 / a > 0.0 then a else b
  else if a > b then a else b

def smaller (a b : Float) : Float :=
  if a.isNaN || b.isNaN then 0.0 / 0.0
  else if a == 0.0 && b == 0.0 then if 1.0 / a < 0.0 then a else b
  else if a < b then a else b

def overAll (f : Float → Float → Float) (start : Float) (c : Call) : M Value := do
  let xs ← c.args.mapM toNumber
  return .number (xs.foldl f start)

def hypotenuse (c : Call) : M Value := do
  let xs ← c.args.mapM toNumber
  if xs.any Float.isInf then return .number (1.0 / 0.0)
  let top := xs.foldl (fun m x => larger m x.abs) 0.0
  if top.isNaN || top == 0.0 then return .number top
  return .number (top * (xs.foldl (fun acc x => acc + (x / top) * (x / top)) 0.0).sqrt)

def leadingZeros (n : Nat) : Nat := if n == 0 then 32 else 31 - n.log2

def rows : List Native :=
  [onOne "abs" Float.abs, onOne "floor" Float.floor, onOne "ceil" Float.ceil, onOne "round" round,
    onOne "sqrt" Float.sqrt, onOne "acos" Float.acos, onOne "asin" Float.asin, onOne "atan" Float.atan,
    onOne "cos" Float.cos, onOne "exp" Float.exp, onOne "log" Float.log, onOne "sin" Float.sin, onOne "tan" Float.tan,
    onOne "trunc" truncate, onOne "sign" sign, onOne "cosh" Float.cosh, onOne "sinh" Float.sinh,
    onOne "tanh" Float.tanh, onOne "acosh" Float.acosh, onOne "asinh" Float.asinh, onOne "atanh" Float.atanh,
    onOne "expm1" expLess, onOne "log1p" logOfMore, onOne "log2" Float.log2, onOne "log10" Float.log10,
    onOne "cbrt" cubeRoot, onOne "fround" (fun x => x.toFloat32.toFloat),
    .method home "max" 2 (overAll larger (-1.0 / 0.0)), .method home "min" 2 (overAll smaller (1.0 / 0.0)),
    .method home "hypot" 2 hypotenuse,
    .method home "atan2" 2 (fun c => do return .number ((← toNumber (c.arg 0)).atan2 (← toNumber (c.arg 1)))),
    .method home "pow" 2 (fun c => do return .number (numberPower (← toNumber (c.arg 0)) (← toNumber (c.arg 1)))),
    .method home "imul" 2 (fun c => do return .ofInt (wrapSigned 32 ((← toInt32 (c.arg 0)) * (← toInt32 (c.arg 1))))),
    .method home "clz32" 1 (fun c => do return .ofNat (leadingZeros (← toUint32 (c.arg 0)))),
    .method home "random" 0 fun _ => return .number 0.5]

end ApiStencil.Script.Library.Mathematics
