import ApiStencil.Decimal.Remainder
import ApiStencil.Regex.Pattern
import ApiStencil.Template.Call
/-!
Tests of variables. A variable may be undefined; most tests then fail to answer.
-/
set_option autoImplicit false

namespace ApiStencil.Template

abbrev Test := Option Json → List Json → Answer Bool

namespace Test

def argsAllowed (name : String) (most : Nat) (args : List Json) : Answer Unit :=
  if args.length ≤ most then .ok ()
  else if most == 0 then
    .error (.said s!"Tester `{name}` was called with some args but this test doesn't take args")
  else .error (.said s!"Tester `{name}` was called with {args.length} args, the max number is {most}")

def defined (name : String) (v : Option Json) : Answer Json :=
  match v with
  | some v => .ok v
  | none => .error (.said s!"Tester `{name}` was called on an undefined variable")

/-- A test without arguments. -/
def onValue (name : String) (f : Json → Answer Bool) : Test := fun v args => do
  argsAllowed name 0 args
  f (← defined name v)

/-- A test with one argument. -/
def withArgument (name : String) (f : Json → Option Json → Answer Bool) : Test := fun v args => do
  argsAllowed name 1 args
  f (← defined name v) args.head?

def isDefined : Test := fun v args => do
  argsAllowed "defined" 0 args
  return v.isSome

def isUndefined : Test := fun v args => do
  argsAllowed "undefined" 0 args
  return v.isNone

def number? : Option Json → Option Float
  | some (.number n) => some n.toFloat
  | _ => none

def text (name part : String) (v : Option Json) : Answer String :=
  match v with
  | some (.string s) => .ok s
  | _ => .error (.said s!"Tester `{name}` was called {part} that isn't a string")

def isOdd (v : Json) : Answer Bool :=
  match number? (some v) with
  | some x => .ok (Decimal.remainder x 2.0 != 0.0)
  | none => .error (.said "Tester `odd` was called on a variable that isn't a number")

def divisible (v : Json) (by_ : Option Json) : Answer Bool :=
  match number? (some v), number? by_ with
  | some x, some y => .ok (Decimal.remainder x y == 0.0)
  | some _, none => .error (.said "Tester `divisibleby` was called with a parameter that isn't a number")
  | none, _ => .error (.said "Tester `divisibleby` was called on a variable that isn't a number")

/-- A test of a text against a text. -/
def onTexts (name : String) (f : String → String → Answer Bool) : Test :=
  withArgument name fun v arg => do
    let s ← text name "on a variable" (some v)
    f s (← text name "with a parameter" arg)

def startsWith (s pat : String) : Bool :=
  (Text.dropText? pat.toList s.toList).isSome

def endsWith (s pat : String) : Bool :=
  (Text.dropText? pat.toList.reverse s.toList.reverse).isSome

def containing (v : Json) (arg : Option Json) : Answer Bool :=
  match v with
  | .string s => (text "containing" "with a parameter" arg).map fun pat => Text.hasText pat.toList s.toList
  | .array items => .ok (arg.any items.contains)
  | .object fields => (text "containing" "with a parameter" arg).map fun key => (Json.lookup key fields).isSome
  | _ => .error (.said "Tester `containing` can only be used on string, array or map")

def matching (s pat : String) : Answer Bool :=
  match Regex.parse pat with
  | .ok r => .ok (r.search? (s.toList.map Char.toNat).toArray 0).isSome
  | .error e => .error (.said s!"Tester `matching`: Invalid regular expression: regex parse error: {e.message}")

def table : List (String × Test) :=
  [("defined", isDefined), ("undefined", isUndefined),
    ("odd", onValue "odd" isOdd), ("even", onValue "even" fun v => (isOdd v).map (!·)),
    ("string", onValue "string" fun v => .ok v.str?.isSome),
    ("number", onValue "number" fun v => .ok (number? (some v)).isSome),
    ("divisibleby", withArgument "divisibleby" divisible),
    ("iterable", onValue "iterable" fun v => .ok (match v with | .array _ | .object _ => true | _ => false)),
    ("object", onValue "object" fun v => .ok (match v with | .object _ => true | _ => false)),
    ("starting_with", onTexts "starting_with" fun s pat => .ok (startsWith s pat)),
    ("ending_with", onTexts "ending_with" fun s pat => .ok (endsWith s pat)),
    ("containing", withArgument "containing" containing), ("matching", onTexts "matching" matching)]

def named? (name : String) : Option Test := table.lookup name

end Test
end ApiStencil.Template
