/-!
The shortest decimal that reads back as a given double: among the decimals with the fewest digits
inside the interval of reals that round to it, the nearest. Everything is exact arithmetic on
natural numbers.
-/
set_option autoImplicit false

namespace ApiStencil.Decimal

/-- The magnitude `mantissa * 2 ^ exponent` of a finite double. -/
structure Binary where
  mantissa : Nat
  exponent : Int

/-- `digits`, the first of them non-zero, with the point before them moved `point` places right. -/
structure Digits where
  digits : List Nat
  point : Int

def Binary.ofFloat (x : Float) : Binary :=
  let bits : Nat := x.toBits.toNat
  let fraction : Nat := bits % Nat.pow 2 52
  let biased : Nat := bits / Nat.pow 2 52 % Nat.pow 2 11
  if biased == 0 then ⟨fraction, -1074⟩ else ⟨fraction + Nat.pow 2 52, (biased : Int) - 1075⟩

def isNegative (x : Float) : Bool :=
  x.toBits.toNat ≥ Nat.pow 2 63

/-- The digits of a natural number, most significant first. -/
def digitsOf (n : Nat) : List Nat :=
  (toString n).toList.map (fun c => c.toNat - 48)

/-- A scaled picture of a double: value and interval ends are numerators over `den`. -/
structure Scaled where
  value : Nat
  low : Nat
  high : Nat
  den : Nat
  closed : Bool

def Scaled.ofBinary (b : Binary) : Scaled :=
  let narrow := b.mantissa == Nat.pow 2 52 && b.exponent > -1074
  let shift : Nat := b.exponent.toNat
  let scale := 4 * Nat.pow 2 shift
  { value := b.mantissa * scale
    low := b.mantissa * scale - (if narrow then 1 else 2) * Nat.pow 2 shift
    high := b.mantissa * scale + 2 * Nat.pow 2 shift
    den := 4 * Nat.pow 2 (-b.exponent).toNat
    closed := b.mantissa % 2 == 0 }

/-- Whether `n / d` rounds to the double. -/
def Scaled.holds (s : Scaled) (n d : Nat) : Bool :=
  if s.closed then s.low * d ≤ n * s.den && n * s.den ≤ s.high * d
  else s.low * d < n * s.den && n * s.den < s.high * d

/-- The least `k` with `value < 10 ^ k`. -/
def Scaled.magnitude (s : Scaled) : Int :=
  let q := s.value / s.den
  if q > 0 then ((toString q).length : Int)
  else
    -- below one: `value < den / 10 ^ (l - 1)` and `den / 10 ^ l ≤ value`, for `l` digits
    1 - ((toString ((s.den - 1) / s.value)).length : Int)

/-- The point of the grid of `n` significant digits that stands for the double, if one does. -/
def Scaled.onGrid? (s : Scaled) (magnitude : Int) (n : Nat) : Option Nat :=
  let unit : Int := magnitude - n
  let up := Nat.pow 10 (-unit).toNat
  let down := Nat.pow 10 unit.toNat
  let lower := s.value * up / (s.den * down)
  let upper := lower + 1
  let fits := fun m : Nat => s.holds (m * down) up
  -- twice the distance of the value from the lower point, against one unit
  let twice := 2 * (s.value * up - lower * (s.den * down))
  let unitSize := s.den * down
  match fits lower, fits upper with
  | true, true =>
    if twice < unitSize then some lower
    else if unitSize < twice then some upper
    else some (if lower % 2 == 0 then lower else upper)
  | true, false => some lower
  | false, true => some upper
  | false, false => none

def Scaled.search (s : Scaled) (magnitude : Int) : Nat → Nat → Nat
  | 0, n => (s.onGrid? magnitude n).getD 0
  | fuel + 1, n =>
    match s.onGrid? magnitude n with
    | some m => m
    | none => s.search magnitude fuel (n + 1)

def Scaled.length (s : Scaled) (magnitude : Int) : Nat → Nat → Nat
  | 0, n => n
  | fuel + 1, n => if (s.onGrid? magnitude n).isSome then n else s.length magnitude fuel (n + 1)

/-- Digits of a finite double that is not zero, without zeros at the end. -/
def shortest (x : Float) : Digits :=
  let b := Binary.ofFloat x
  if b.mantissa == 0 then ⟨[0], 1⟩
  else
    let s := Scaled.ofBinary b
    let magnitude := s.magnitude
    let n := s.length magnitude 17 1
    let ds := digitsOf (s.search magnitude 17 1)
    let point := magnitude + ((ds.length : Int) - n)
    ⟨(ds.reverse.dropWhile (· == 0)).reverse, point⟩

end ApiStencil.Decimal
