import ApiStencil.Decimal.Shortest
/-!
The remainder of a division of doubles, with the sign of the dividend. It is exact: both are integers
of one common unit.
-/
set_option autoImplicit false

namespace ApiStencil.Decimal

/-- A natural number without the zeros at its binary end, and how many there were. -/
def oddPart : Nat → Nat → Nat × Nat
  | 0, n => (n, 0)
  | fuel + 1, n =>
    if n != 0 && n % 2 == 0 then
      let (m, k) := oddPart fuel (n / 2)
      (m, k + 1)
    else (n, 0)

/-- `n` units of `2 ^ e`, which has to be a double. -/
def ofUnits (n : Nat) (e : Int) : Float :=
  let (m, k) := oddPart 2200 n
  (Float.ofNat m).scaleB (e + k)

def remainder (x y : Float) : Float :=
  if x.isNaN || y.isNaN || x.isInf || y == 0 then 0.0 / 0.0
  else if y.isInf then x
  else
    let a := Binary.ofFloat x
    let b := Binary.ofFloat y
    let e := min a.exponent b.exponent
    let n := a.mantissa * Nat.pow 2 (a.exponent - e).toNat
    let d := b.mantissa * Nat.pow 2 (b.exponent - e).toNat
    let r := ofUnits (n % d) e
    if isNegative x then -r else r

end ApiStencil.Decimal
