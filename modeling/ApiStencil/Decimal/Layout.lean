import ApiStencil.Decimal.Shortest
/-!
Writing a double's shortest digits: positional inside a range of magnitudes, with an exponent
outside it. A `Layout` holds the choices that differ from one format to another.
-/
set_option autoImplicit false

namespace ApiStencil.Decimal

/-- How a format writes a finite double. -/
structure Layout where
  /-- The point stands positionally when it is at least `minPoint` and at most `maxPoint`. -/
  minPoint : Option Int
  maxPoint : Option Int
  /-- An integral value ends in `.0`. -/
  markFraction : Bool
  /-- A positive exponent has a plus sign. -/
  plus : Bool
  /-- Negative zero keeps its sign. -/
  signedZero : Bool
  nan : String
  infinity : String

/-- Floats of JSON text always show that they are floats. -/
def json : Layout := ⟨some (-4), some 16, true, true, true, "null", "null"⟩

/-- Plain decimal text, never with an exponent. -/
def plain : Layout := ⟨none, none, false, false, true, "NaN", "inf"⟩

/-- Plain decimal text that shows it is a float. -/
def plainMarked : Layout := { plain with markFraction := true }

/-- Numbers as script code prints them. -/
def script : Layout := ⟨some (-5), some 21, false, true, false, "NaN", "Infinity"⟩

/-- Floats of YAML text. -/
def yaml : Layout := ⟨some (-4), some 16, true, false, true, ".nan", ".inf"⟩

def digitText (ds : List Nat) : String :=
  String.ofList (ds.map fun d => Char.ofNat (48 + d))

def zeros (n : Nat) : String :=
  String.ofList (List.replicate n '0')

def Digits.positional (d : Digits) (markFraction : Bool) : String :=
  let n : Int := d.digits.length
  if d.point ≤ 0 then "0." ++ zeros (-d.point).toNat ++ digitText d.digits
  else if n ≤ d.point then
    digitText d.digits ++ zeros (d.point - n).toNat ++ (if markFraction then ".0" else "")
  else
    digitText (d.digits.take d.point.toNat) ++ "." ++ digitText (d.digits.drop d.point.toNat)

def Digits.scientific (d : Digits) (plus : Bool) : String :=
  let e := d.point - 1
  let head := digitText (d.digits.take 1)
  let tail := digitText (d.digits.drop 1)
  let mantissa := if tail.isEmpty then head else head ++ "." ++ tail
  mantissa ++ "e" ++ (if e < 0 then "-" else if plus then "+" else "") ++ toString e.natAbs

def Layout.render (l : Layout) (x : Float) : String :=
  if x.isNaN then l.nan
  else
    let sign := if isNegative x then "-" else ""
    if x.isInf then sign ++ l.infinity
    else if x == 0 then
      (if l.signedZero then sign else "") ++ (if l.markFraction then "0.0" else "0")
    else
      let d := shortest x
      let low := match l.minPoint with | some p => p ≤ d.point | none => true
      let high := match l.maxPoint with | some p => d.point ≤ p | none => true
      sign ++ (if low && high then d.positional l.markFraction else d.scientific l.plus)

end ApiStencil.Decimal

/-!
Decimals with a fixed number of places, rounded from the exact value of a double.
-/

namespace ApiStencil.Decimal

/-- Which way an exact half goes. -/
inductive Tie where
  | toEven
  | away
  deriving DecidableEq

/-- `num / den` to the nearest integer. -/
def roundDiv (num den : Nat) (tie : Tie) : Nat :=
  let q := num / den
  let twice := 2 * (num % den)
  if twice < den then q
  else if den < twice then q + 1
  else match tie with
    | .away => q + 1
    | .toEven => if q % 2 == 0 then q else q + 1

/-- The magnitude of a finite double in units of `10 ^ -places`. -/
def scaledTo (x : Float) (places : Nat) (tie : Tie) : Nat :=
  let b := Binary.ofFloat x
  roundDiv (b.mantissa * Nat.pow 10 places * Nat.pow 2 b.exponent.toNat) (Nat.pow 2 (-b.exponent).toNat) tie

/-- `n` units of `10 ^ -places` in positional notation. -/
def placed (n places : Nat) : String :=
  let ds := (Nat.repr n).toList
  let ds := List.replicate (places + 1 - ds.length) '0' ++ ds
  let whole := ds.take (ds.length - places)
  if places == 0 then String.ofList whole
  else String.ofList (whole ++ '.' :: ds.drop (ds.length - places))

/-- A finite double with exactly `places` places. -/
def fixed (x : Float) (places : Nat) (tie : Tie) : String :=
  (if isNegative x then "-" else "") ++ placed (scaledTo x places tie) places

/-- The magnitude of a finite double that is not zero, in `count` digits; an exact half goes up. -/
def significant (x : Float) (count : Nat) : Digits :=
  let s := Scaled.ofBinary (Binary.ofFloat x)
  let point := s.magnitude
  let shift := (count : Int) - point
  let n := roundDiv (s.value * Nat.pow 10 shift.toNat) (s.den * Nat.pow 10 (-shift).toNat) .away
  if n == Nat.pow 10 count then ⟨digitsOf (n / 10), point + 1⟩ else ⟨digitsOf n, point⟩

end ApiStencil.Decimal
