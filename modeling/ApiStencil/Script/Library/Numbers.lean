import ApiStencil.Decimal.Layout
import ApiStencil.Script.Library.Native
/-!
Numbers and integers of any size: how they are written and read.
-/
set_option autoImplicit false

namespace ApiStencil.Script.Library.Numbers
open M

def proto : Intrinsic := .proto .number

def maker : Intrinsic := .maker .number

/-- The double nearest to an integer. -/
def nearestTo (n : Int) : Float :=
  let x := Decimal.nearest (Nat.repr n.natAbs).toList [] 0
  if n < 0 then -x else x

def make (c : Call) : M Value := do
  let x ← match c.args with
    | [] => pure 0.0
    | v :: _ =>
      match ← toNumeric v with
      | .bigint n => pure (nearestTo n)
      | .number x => pure x
      | _ => pure 0.0
  match c.newTarget with
  | .undefined => return .number x
  | _ => return .object (← newInstance c .number (.number x))

def thisNumber (c : Call) : M Float := do
  match c.this with
  | .number x => return x
  | v =>
    match ← kind? v with
    | some (.number x) => return x
    | _ => typeError "not a number"

/-- A digit of a base up to 36. -/
def digitOf (d : Nat) : Char := if d < 10 then Char.ofNat (48 + d) else Char.ofNat (87 + d)

def naturalText (base : Nat) : Nat → Nat → List Char → List Char
  | 0, _, acc => acc
  | fuel + 1, n, acc =>
    if n < base then digitOf n :: acc else naturalText base fuel (n / base) (digitOf (n % base) :: acc)

def integerText (base : Nat) (n : Int) : String :=
  let ds := naturalText base (n.natAbs.log2 + 2) n.natAbs []
  String.ofList (if n < 0 then '-' :: ds else ds)

/-- Adds one to the last digit; a digit that has no room for it is dropped and the one before it grows. -/
def carried (base : Nat) : List Nat → List Nat × Bool
  | [] => ([], true)
  | d :: rest => if d + 1 < base then ((d + 1) :: rest, false) else carried base rest

def maxExact : Nat := Nat.pow 2 53 - 1

/-- Digits of a whole number above the exact ones; as long as the rest is not exact they are zeros. -/
def roughDigits (base : Float) : Nat → Float → List Char → List Char
  | 0, _, acc => acc
  | fuel + 1, x, acc =>
    if x < base then digitOf x.toUInt64.toNat :: acc
    else
      let rest := (x / base).floor
      let digit := if rest < Float.ofNat maxExact then x.toUInt64.toNat % base.toUInt64.toNat else 0
      roughDigits base fuel rest (digitOf digit :: acc)

/-- Digits behind the point, last one first, until all digits together, which make `n` so far, leave the
exact numbers, and what is left then. -/
def fractionDigits (base : Nat) : Nat → Float → Nat → List Nat → List Nat × Float
  | 0, fraction, _, acc => (acc, fraction)
  | fuel + 1, fraction, n, acc =>
    let x := fraction * Float.ofNat base
    let digit := x.floor.toUInt64.toNat
    let fraction := x - x.floor
    let n := base * n + digit
    if n < maxExact && fraction != 0.0 then fractionDigits base fuel fraction n (digit :: acc)
    else (digit :: acc, fraction)

/-- A positive number, as its whole part, with the digits of its fraction. -/
def exactText (base : Nat) (whole fraction : Float) : String :=
  let n := whole.toUInt64.toNat
  let (ds, left) := if fraction == 0.0 then ([], 0.0) else fractionDigits base 1100 fraction n []
  let up := left * Float.ofNat base ≥ Float.ofNat (base / 2) && left != 0.0
  let (ds, carry) := if up then carried base ds else (ds.dropWhile (· == 0), false)
  let tail := String.ofList ((ds.map digitOf).reverse)
  integerText base (if carry then n + 1 else n) ++ (if tail.isEmpty then "" else "." ++ tail)

def radixText (base : Nat) (x : Float) : String :=
  if x.isNaN then "NaN"
  else if x.isInf then if x > 0.0 then "Infinity" else "-Infinity"
  else
    let magnitude := x.abs
    let whole := magnitude.floor
    let text :=
      if whole ≤ Float.ofNat maxExact then exactText base whole (magnitude - whole)
      else String.ofList (roughDigits (Float.ofNat base) 1100 whole [])
    (if x < 0.0 then "-" else "") ++ text

def radixArg (v : Value) : M Nat := do
  match v with
  | .undefined => return 10
  | v =>
    let x ← toInteger v
    if 2.0 ≤ x && x ≤ 36.0 then return x.toUInt64.toNat
    else rangeError "toString() radix argument must be between 2 and 36"

def toString (c : Call) : M Value := do
  let x ← thisNumber c
  let base ← radixArg (c.arg 0)
  if base == 10 then text (numberText x) else return .ofString (radixText base x)

/-- A number of digits within bounds. -/
def digitsArg (name : String) (lo : Nat) (v : Value) : M Nat := do
  let x ← toInteger v
  if Float.ofNat lo ≤ x && x ≤ 100.0 then return x.toUInt64.toNat
  else rangeError s!"{name} argument must be between {lo} and 100"

def isFinite (x : Float) : Bool := !x.isNaN && !x.isInf

def toFixed (c : Call) : M Value := do
  let x ← thisNumber c
  let places ← digitsArg "toFixed() digits" 0 (c.arg 0)
  if !isFinite x || x.abs ≥ 1e21 then text (numberText x)
  else
    let n := Decimal.scaledTo x places .away
    return .ofString ((if x < 0.0 then "-" else "") ++ Decimal.placed n places)

def signed (x : Float) (s : String) : Value := .ofString (if x < 0.0 then "-" ++ s else s)

def toExponential (c : Call) : M Value := do
  let x ← thisNumber c
  let wanted ← toInteger (c.arg 0)
  if !isFinite x then text (numberText x)
  else
    let _ ← digitsArg "toExponential()" 0 (.number wanted)
    let places := wanted.toUInt64.toNat
    let digits ← match c.arg 0 with
      | .undefined => pure (if x == 0.0 then ⟨[0], 1⟩ else Decimal.shortest x)
      | _ => pure (if x == 0.0 then ⟨List.replicate (places + 1) 0, 1⟩ else Decimal.significant x (places + 1))
    return signed x (digits.scientific true)

def toPrecision (c : Call) : M Value := do
  let x ← thisNumber c
  match c.arg 0 with
  | .undefined => text (numberText x)
  | v =>
    let wanted ← toInteger v
    if !isFinite x then text (numberText x)
    else
      let count ← digitsArg "toPrecision()" 1 (.number wanted)
      let d := if x == 0.0 then ⟨List.replicate count 0, 1⟩ else Decimal.significant x count
      let e := d.point - 1
      return signed x (if e < -6 || e ≥ count then d.scientific true else d.positional false)

def isInteger (v : Value) : Bool :=
  match v with
  | .number x => isFinite x && x.floor == x
  | _ => false

def isSafe (v : Value) : Bool :=
  match v with
  | .number x => isFinite x && x.floor == x && x.abs ≤ 9007199254740991.0
  | _ => false

/-- The longest number at the start of a text. -/
def leadingNumber (cs : List Char) : Float :=
  let (negative, cs) := match cs with
    | '-' :: rest => (true, rest)
    | '+' :: rest => (false, rest)
    | cs => (false, cs)
  let sign := fun x : Float => if negative then -x else x
  if "Infinity".toList.isPrefixOf cs then sign (1.0 / 0.0)
  else
    let (whole, rest) := Decimal.spanDigits cs
    let (fraction, rest) := match rest with
      | '.' :: rest => Decimal.spanDigits rest
      | rest => ([], rest)
    if whole.isEmpty && fraction.isEmpty then 0.0 / 0.0
    else
      let exponent := match rest with
        | e :: rest =>
          if e == 'e' || e == 'E' then
            let (mark, rest) := match rest with
              | '-' :: rest => (['-'], rest)
              | '+' :: rest => ([], rest)
              | rest => ([], rest)
            (Decimal.signedOfBase? 10 (mark ++ (Decimal.spanDigits rest).1)).getD 0
          else 0
        | [] => 0
      sign (Decimal.nearest whole fraction exponent)

def parseFloat (c : Call) : M Value := do
  return .number (leadingNumber (← toText (c.arg 0)).trimStart.toText.toList)

def parseInt (c : Call) : M Value := do
  let cs := (← toText (c.arg 0)).trimStart.toText.toList
  let radix ← toInt32 (c.arg 1)
  let (negative, cs) := match cs with
    | '-' :: rest => (true, rest)
    | '+' :: rest => (false, rest)
    | cs => (false, cs)
  if radix != 0 && (radix < 2 || radix > 36) then return .number (0.0 / 0.0)
  let marked := match cs with
    | '0' :: 'x' :: _ | '0' :: 'X' :: _ => radix == 0 || radix == 16
    | _ => false
  let base := if marked then 16 else if radix == 0 then 10 else radix.toNat
  let ds := (if marked then cs.drop 2 else cs).takeWhile fun ch => (Decimal.digitOfBase? base ch).isSome
  match Decimal.ofBase? base ds with
  | some n => return .number (if negative then -(nearestTo n) else nearestTo n)
  | none => return .number (0.0 / 0.0)

def bigProto : Intrinsic := .proto .bigint

def makeBig (c : Call) : M Value := do
  match ← toPrimitive (c.arg 0) .number with
  | .number x =>
    if isFinite x && x.floor == x then return .bigint (truncated x)
    else rangeError "cannot convert to BigInt: not an integer"
  | v => return .bigint (← toBigint v)

def thisBig (c : Call) : M Int := do
  match c.this with
  | .bigint n => return n
  | v =>
    match ← kind? v with
    | some (.bigint n) => return n
    | _ => typeError "not a BigInt"

def wrapped (signed : Bool) (c : Call) : M Value := do
  let bits ← toLength (c.arg 0)
  let n ← toBigint (c.arg 1)
  if bits > 100000 then return .bigint n
  else if bits == 0 then return .bigint 0
  else return .bigint (if signed then wrapSigned bits n else wrapUnsigned bits n)

def rows : List Native :=
  [.maker .number 1 make, .method maker "parseInt" 2 parseInt, .method maker "parseFloat" 1 parseFloat,
    .method maker "isNaN" 1 (fun c => match c.arg 0 with
      | .number x => boolean x.isNaN
      | _ => boolean false),
    .method maker "isFinite" 1 (fun c => match c.arg 0 with
      | .number x => boolean (isFinite x)
      | _ => boolean false),
    .method maker "isInteger" 1 (fun c => boolean (isInteger (c.arg 0))),
    .method maker "isSafeInteger" 1 (fun c => boolean (isSafe (c.arg 0))),
    .method proto "toExponential" 1 toExponential, .method proto "toFixed" 1 toFixed,
    .method proto "toPrecision" 1 toPrecision, .method proto "toString" 1 toString,
    .method proto "toLocaleString" 0 (fun c => do text (numberText (← thisNumber c))),
    .method proto "valueOf" 0 (fun c => do return .number (← thisNumber c)),
    .method (.fixture .global) "parseInt" 2 parseInt, .method (.fixture .global) "parseFloat" 1 parseFloat,
    .method (.fixture .global) "isNaN" 1 (fun c => do boolean (← toNumber (c.arg 0)).isNaN),
    .method (.fixture .global) "isFinite" 1 (fun c => do boolean (isFinite (← toNumber (c.arg 0)))),
    .maker .bigint 1 makeBig, .method (.maker .bigint) "asIntN" 2 (wrapped true),
    .method (.maker .bigint) "asUintN" 2 (wrapped false),
    .method bigProto "toString" 0 (fun c => do
      let n ← thisBig c
      return .ofString (integerText (← radixArg (c.arg 0)) n)),
    .method bigProto "toLocaleString" 0 (fun c => do return .ofString (integerText 10 (← thisBig c))),
    .method bigProto "valueOf" 0 fun c => do return .bigint (← thisBig c)]

end ApiStencil.Script.Library.Numbers
