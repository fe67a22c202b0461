import ApiStencil.Json.Basic
import ApiStencil.Script.Library.Globals
/-!
Values across the boundary: JSON values handed to a script, and values of a script handed back. What
has no form in JSON comes back as null or is left out.
-/
set_option autoImplicit false

namespace ApiStencil.Script
namespace M

/-- Names end at the first NUL. -/
def fieldName (u : Units) : Units := (u.toList.takeWhile (· != 0)).toArray

mutual

/-- A JSON value as a value of the script. -/
def ofJson : Json → M Value
  | .null => return .null
  | .bool b => return .bool b
  | .number n => return .number n.toFloat
  | .string s => return .ofString s
  | .array items => do
    let r ← newPlain (.proto .array) (.array #[])
    putItems r 0 items
    return .object r
  | .object fields => do
    let r ← newPlain (.proto .object) .plain
    defineFields r fields
    return .object r

def putItems (r i : Nat) : List Json → M Unit
  | [] => return ()
  | item :: rest => do
    let v ← ofJson item
    putMember (.object r) (.ofIndex i) v
    putItems r (i + 1) rest

def defineFields (r : Nat) : List (String × Json) → M Unit
  | [] => return ()
  | (name, item) :: rest => do
    let v ← ofJson item
    let _ ← define r (.name (fieldName (txt name))) (.shown v)
    defineFields r rest

end

/-- A whole number of less than 2 ^ 53 is an integer. -/
def numberJson (x : Float) : Json :=
  if x.isNaN || x.isInf then .null
  else
    let n := truncated x
    if n.natAbs < 9007199254740992 && Number.nearest n == x then .number (.int n) else .number (.float x)

def hasNoForm (k : Kind) : Bool :=
  match k with
  | .error | .promise _ => true
  | _ => false

/-- A value of the script as JSON, down to a depth of `n`. -/
def toJson : Nat → Value → M Json
  | 0, _ => rangeError "Maximum call stack size exceeded"
  | n + 1, v => do
    match v with
    | .bool b => return .bool b
    | .number x => return numberJson x
    | .text u => return .string u.toText
    | .undefined | .null | .symbol _ | .bigint _ => return .null
    | .object r =>
      if ← Library.Arrays.isArray v then
        let items ← (List.range (← lengthOf v)).mapM fun i => do toJson n (← getMember v (.ofIndex i))
        return .array items
      else if ← isCallable v then return .null
      else if hasNoForm (← kindOf r) then return .null
      else
        let names ← Library.Objects.shownNames r
        let fields ← names.filterMapM fun u => do
          let item ← getFrom r (.name u) v
          let skips ← match item with
            | .undefined => pure true
            | item => isCallable item
          if skips then return none else return some ((fieldName u).toText, ← toJson n item)
        return Json.ofFields fields

/-- How far a value that holds itself is followed, over the number of objects. -/
def maxNesting : Nat := 10000

/-- A value of the script as JSON. -/
def handBack (v : Value) : M Json := do
  toJson ((← look).objects.size + maxNesting) v

end M
end ApiStencil.Script
