import ApiStencil.Decimal.Layout
import ApiStencil.Decimal.Read
import ApiStencil.Template.Call
import ApiStencil.Template.Value
import ApiStencil.Text.Trim
/-!
Filters on numbers, on objects and on values of any kind.
-/
set_option autoImplicit false

namespace ApiStencil.Template.Filter

/-- A float as JSON, which has no value for infinities and for what is not a number. -/
def ofFloat (x : Float) : Json :=
  if x.isFinite then .number (.float x) else .null

/-- The integer part of a float, inside the signed 64-bit range. -/
def truncated (x : Float) : Int :=
  x.toInt64.toInt

def abs : Filter := fun v _ =>
  match v with
  | .number (.int n) => .ok (.number (.int (if n == Number.minInt then n else n.natAbs)))
  | .number (.float x) => .ok (.number (.float x.abs))
  | _ => .error (.said "Filter `abs` was used on a value that isn't a number.")

def pluralize : Filter := fun v args => do
  let x ← valueAs .float "pluralize" v
  let plural ← argumentOr .string "pluralize" "plural" args "s"
  let singular ← argumentOr .string "pluralize" "singular" args ""
  pure (.string (if (x.abs - 1.0).abs > 2.220446049250313e-16 then plural else singular))

def tenTo (n : Int) : Float :=
  if n ≥ 0 then (10.0 : Float).pow (Float.ofInt n) else 1.0 / (10.0 : Float).pow (Float.ofInt (-n))

def round : Filter := fun v args => do
  let x ← valueAs .float "round" v
  let method ← argumentOr .string "round" "method" args "common"
  let precision ← argumentOr (.integer "i32" (-2147483648) 2147483647) "round" "precision" args 0
  let unit := if precision == 0 then 1.0 else tenTo precision
  match method with
  | "common" => pure (ofFloat ((unit * x).round / unit))
  | "ceil" => pure (ofFloat ((unit * x).ceil / unit))
  | "floor" => pure (ofFloat ((unit * x).floor / unit))
  | _ =>
    throw (.said s!"Filter `round` received an incorrect value for arg `method`: got `{(Json.string method).text}`, only common, ceil and floor are allowed")

def decimalUnits : List String := ["B", "kB", "MB", "GB", "TB", "PB", "EB"]

def binaryUnits : List String := ["B", "KiB", "MiB", "GiB", "TiB", "PiB", "EiB"]

/-- The size in the largest unit that it reaches, two places unless it is whole. -/
def sizeText (x : Float) : List String → String
  | [] => ""
  | unit :: more =>
    if x ≥ 1024.0 && !more.isEmpty then sizeText (x / 1024.0) more
    else Decimal.fixed x (if x.floor == x then 0 else 2) .toEven ++ " " ++ unit

def filesize : Filter := fun v args => do
  let n ← valueAs .size "filesizeformat" v
  let binary ← argumentOr .bool "filesizeformat" "binary" args false
  pure (.string (sizeText n.toFloat (if binary then binaryUnits else decimalUnits)))

def int64 : Kind Int := .integer "i64" Number.minInt Number.maxInt

def withoutMark (base : Int) (cs : List Char) : List Char :=
  if base == 2 then Text.dropCopies "0b".toList cs
  else if base == 8 then Text.dropCopies "0o".toList cs
  else if base == 16 then Text.dropCopies "0x".toList cs
  else cs

/-- A text as an integer; a decimal fraction is cut off. -/
def intOfText (base otherwise : Int) (s : String) : Int :=
  let cs := withoutMark base (Text.trimChars s.toList)
  match Decimal.signedOfBase? base.toNat cs with
  | some n =>
    if Number.minInt ≤ n && n ≤ Number.maxInt then n else otherwise
  | none =>
    if cs.contains '.' then ((Decimal.float? cs).map truncated).getD otherwise else otherwise

def int : Filter := fun v args => do
  let otherwise ← argumentOr int64 "int" "default" args 0
  let base ← argumentOr (.integer "u32" 0 4294967295) "int" "base" args 10
  match v with
  | .string s => pure (.number (.int (intOfText base otherwise s)))
  | .number n => pure (.number (.int (truncated n.toFloat)))
  | _ => throw (.said "Filter `int` received an unexpected type")

def float : Filter := fun v args => do
  let otherwise ← argumentOr .float "float" "default" args 0
  match v with
  | .string s => pure (ofFloat ((Decimal.float? (Text.trimChars s.toList)).getD otherwise))
  | .number n => pure (ofFloat n.toFloat)
  | _ => throw (.said "Filter `float` received an unexpected type")

def length : Filter := fun v _ =>
  match v with
  | .array items => .ok (Json.ofNat items.length)
  | .object fields => .ok (Json.ofNat fields.length)
  | .string s => .ok (Json.ofNat s.length)
  | _ => .error (.said "Filter `length` was used on a value that isn't an array, an object, or a string.")

def reverse : Filter := fun v _ =>
  match v with
  | .array items => .ok (.array items.reverse)
  | .string s => .ok (.string (String.ofList s.toList.reverse))
  | _ => .error (.said s!"Filter `reverse` received an incorrect type for arg `value`: got `{v.text}` but expected Array|String")

def jsonEncode : Filter := fun v args =>
  match Json.lookup "pretty" args with
  | some (.bool true) => .ok (.string (v.pretty 0))
  | _ => .ok (.string v.text)

def asString : Filter := fun v _ => .ok (.string (display v))

def get : Filter := fun v args => do
  let key ← argument .string "get" "key" args (.said "The `get` filter has to have an `key` argument")
  match v with
  | .object fields =>
    match Json.lookup key fields, Json.lookup "default" args with
    | some part, _ => pure part
    | none, some otherwise => pure otherwise
    | none, none => throw (.said s!"Filter `get` tried to get key `{key}` but it wasn't found")
  | _ => throw (.said "Filter `get` was used on a value that isn't an object")

end ApiStencil.Template.Filter
