import ApiStencil.Decimal.Remainder
import ApiStencil.Template.Problem
/-!
Arithmetic and comparison of template values. Integers stay integers inside 64 bits, signed if both
sides fit there and else unsigned; all else is done on doubles.
-/
set_option autoImplicit false

namespace ApiStencil.Template

/-- A float, or nothing where it is no finite number. -/
def finite? (x : Float) : Option Number :=
  if x.isFinite then some (.float x) else none

def isSigned : Number → Bool
  | n => n.toInt64?.isSome

def isUnsigned : Number → Bool
  | n => n.toNat64?.isSome

/-- An integer operation, which must not leave the range of its operands. -/
def checked (sign : String) (f : Int → Int → Int) (otherwise : Float → Float → Float) (a b : Number) :
    Except Problem (Option Number) :=
  match a, b with
  | .int m, .int n =>
    let r := f m n
    if isSigned a && isSigned b then
      if Number.minInt ≤ r && r ≤ Number.maxInt then .ok (some (.int r))
      else .error (.outOfBounds m sign n "i64")
    else if isUnsigned a && isUnsigned b then
      if 0 ≤ r && r ≤ Number.maxNat then .ok (some (.int r)) else .error (.outOfBounds m sign n "u64")
    else .ok (finite? (otherwise a.toFloat b.toFloat))
  | _, _ => .ok (finite? (otherwise a.toFloat b.toFloat))

/-- A whole quotient is an integer. -/
def divide (a b : Number) : Option Number :=
  let q := a.toFloat / b.toFloat
  if q.isNaN then none
  else if q.round == q && q.isFinite then some (.int q.toInt64.toInt)
  else finite? q

/-- The result of an operation; the expressions are for messages. -/
def calculate (left right : Expr) (op : MathOp) (a b : Number) : Except Problem (Option Number) :=
  match op with
  | .add => checked "+" (· + ·) (· + ·) a b
  | .sub => checked "-" (· - ·) (· - ·) a b
  | .mul => checked "x" (· * ·) (· * ·) a b
  | .div => .ok (divide a b)
  | .modulo =>
    match a, b with
    | .int _, .int 0 =>
      if (isSigned a && isSigned b) || (isUnsigned a && isUnsigned b) then .error (.moduloZero left right)
      else .ok none
    | .int m, .int n =>
      if (isSigned a && isSigned b) || (isUnsigned a && isUnsigned b) then .ok (some (.int (m.tmod n)))
      else .ok (finite? (Decimal.remainder a.toFloat b.toFloat))
    | _, _ => .ok (finite? (Decimal.remainder a.toFloat b.toFloat))

def compare (op : LogicOp) (a b : Float) : Bool :=
  match op with
  | .gt => b < a
  | .gte => b ≤ a
  | .lt => a < b
  | .lte => a ≤ b
  | _ => false

/-- Equality of values: numbers by their doubles, and a number is neither equal nor unequal to
anything else. -/
def equality (negated : Bool) (a b : Json) : Bool :=
  match a, b with
  | .number x, .number y => (x.toFloat == y.toFloat) != negated
  | .number _, _ | _, .number _ => false
  | _, _ => (a == b) != negated

/-- What counts as true. -/
def isTruthy : Json → Bool
  | .null => false
  | .bool b => b
  | .number n => n.toFloat != 0.0 && !n.toFloat.isNaN
  | .string s => !s.isEmpty
  | .array items => !items.isEmpty
  | .object fields => !fields.isEmpty

end ApiStencil.Template
