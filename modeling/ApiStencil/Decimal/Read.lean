/-!
Reading decimals: a run of digits as a natural number, and the double nearest to a decimal with a
fraction and an exponent.
-/
set_option autoImplicit false

namespace ApiStencil.Decimal

def digitValue (c : Char) : Nat :=
  c.toNat - 48

def naturalOf (cs : List Char) : Nat :=
  cs.foldl (fun n c => 10 * n + digitValue c) 0

/-- The double nearest to `whole.fraction` times a power of ten. -/
def nearest (whole fraction : List Char) (exponent : Int) : Float :=
  let kept := (whole ++ fraction).dropWhile (· == '0')
  if kept.isEmpty then 0.0
  else
    let e := exponent - fraction.length
    -- beyond these magnitudes every value is zero or infinite
    if e + kept.length > 400 then 1.0 / 0.0
    else if e + kept.length < -400 then 0.0
    else if e ≥ 0 then Float.ofScientific (naturalOf kept) false e.toNat
    else Float.ofScientific (naturalOf kept) true (-e).toNat

def digitOfBase? (base : Nat) (c : Char) : Option Nat :=
  let v :=
    if '0' ≤ c && c ≤ '9' then c.toNat - 48
    else if 'a' ≤ c && c ≤ 'z' then c.toNat - 87
    else if 'A' ≤ c && c ≤ 'Z' then c.toNat - 55
    else 99
  if v < base then some v else none

/-- A non-empty run of digits of a base, and nothing else. -/
def ofBase? (base : Nat) (cs : List Char) : Option Nat :=
  if cs.isEmpty then none
  else cs.foldl (fun acc c => acc.bind fun n => (digitOfBase? base c).map (base * n + ·)) (some 0)

/-- An integer of a base with an optional sign. -/
def signedOfBase? (base : Nat) (cs : List Char) : Option Int :=
  match cs with
  | '-' :: rest => (ofBase? base rest).map fun n => -(n : Int)
  | '+' :: rest => (ofBase? base rest).map Int.ofNat
  | _ => (ofBase? base cs).map Int.ofNat

/-- The longest run of decimal digits at the front, and the rest. -/
def spanDigits (cs : List Char) : List Char × List Char :=
  cs.span Char.isDigit

/-- An exponent with its letter, or nothing. -/
def exponentOf? (cs : List Char) : Option Int :=
  match cs with
  | [] => some 0
  | e :: rest =>
    if e == 'e' || e == 'E' then signedOfBase? 10 rest else none

/-- An unsigned decimal with an optional fraction and an optional exponent. -/
def unsignedFloat? (cs : List Char) : Option Float :=
  let (whole, rest) := spanDigits cs
  let (fraction, rest) := match rest with
    | '.' :: rest => spanDigits rest
    | rest => ([], rest)
  if whole.isEmpty && fraction.isEmpty then none
  else (exponentOf? rest).map (nearest whole fraction)

/-- A decimal with an optional sign, or the name of a value that is none. -/
def float? (cs : List Char) : Option Float :=
  let (negative, rest) := match cs with
    | '-' :: rest => (true, rest)
    | '+' :: rest => (false, rest)
    | cs => (false, cs)
  let magnitude :=
    match String.ofList (rest.map Char.toLower) with
    | "inf" | "infinity" => some (1.0 / 0.0)
    | "nan" => some (0.0 / 0.0)
    | _ => unsignedFloat? rest
  magnitude.map fun x => if negative then -x else x

end ApiStencil.Decimal
