/-!
JSON values. Integers and floats are told apart, and an object keeps its fields sorted by name, one
field for each name.
-/
set_option autoImplicit false

namespace ApiStencil

/-- A number is an integer of at most 64 bits or a double. -/
inductive Number where
  | int (value : Int)
  | float (value : Float)

inductive Json where
  | null
  | bool (value : Bool)
  | number (value : Number)
  | string (value : String)
  | array (items : List Json)
  | object (fields : List (String × Json))

namespace Number

def minInt : Int := -9223372036854775808

def maxInt : Int := 9223372036854775807

def maxNat : Int := 18446744073709551615

/-- The integer if it has a place among the integers, else the nearest double. -/
def ofInt (n : Int) : Number :=
  if minInt ≤ n && n ≤ maxNat then .int n else .float (Float.ofInt n)

/-- The double next to an integer; of two, the one with an even mantissa. -/
def nearest (n : Int) : Float := .ofModel (.ofInt n)

def toFloat : Number → Float
  | .int n => nearest n
  | .float x => x

def beq : Number → Number → Bool
  | .int a, .int b => a == b
  | .float a, .float b => a == b
  | _, _ => false

/-- A number that fits in a signed 64-bit integer. -/
def toInt64? : Number → Option Int
  | .int n => if n ≤ maxInt then some n else none
  | .float _ => none

/-- A number that fits in an unsigned 64-bit integer. -/
def toNat64? : Number → Option Nat
  | .int n => if 0 ≤ n then some n.toNat else none
  | .float _ => none

end Number

namespace Json

instance : Inhabited Json := ⟨.null⟩

/-- Fields in the order of their names; a later value for a name takes the place of the former. -/
def insertField (name : String) (value : Json) : List (String × Json) → List (String × Json)
  | [] => [(name, value)]
  | (n, v) :: rest =>
    if name < n then (name, value) :: (n, v) :: rest
    else if name == n then (name, value) :: rest
    else (n, v) :: insertField name value rest

def ofFields (fields : List (String × Json)) : Json :=
  .object (fields.foldl (fun acc (n, v) => insertField n v acc) [])

def lookup (name : String) : List (String × Json) → Option Json
  | [] => none
  | (n, v) :: rest => if n == name then some v else lookup name rest

def get? (name : String) : Json → Option Json
  | .object fields => lookup name fields
  | _ => none

def str? : Json → Option String
  | .string s => some s
  | _ => none

def ofNat (n : Nat) : Json := .number (.int n)

def strings (xs : List String) : Json := .array (xs.map .string)

mutual

def beq : Json → Json → Bool
  | .null, .null => true
  | .bool a, .bool b => a == b
  | .number a, .number b => a.beq b
  | .string a, .string b => a == b
  | .array a, .array b => beqItems a b
  | .object a, .object b => beqFields a b
  | _, _ => false

def beqItems : List Json → List Json → Bool
  | [], [] => true
  | a :: as, b :: bs => beq a b && beqItems as bs
  | _, _ => false

def beqFields : List (String × Json) → List (String × Json) → Bool
  | [], [] => true
  | (m, a) :: as, (n, b) :: bs => m == n && beq a b && beqFields as bs
  | _, _ => false

end

instance : BEq Json := ⟨beq⟩

end Json
end ApiStencil
