import ApiStencil.Template.Filter.Helper
/-!
Functions that every template can call.
-/
set_option autoImplicit false

namespace ApiStencil.Template

abbrev Function := Args → Answer Json

namespace Function

/-- A count given as an argument; `shown` is its name where it is no count. -/
def count (name shown : String) (otherwise : Option Nat) (missing : CallFault) (args : Args) : Answer Nat :=
  match Json.lookup name args with
  | some v =>
    match Kind.size.read? v with
    | some n => .ok n
    | none => .error (.said s!"Function `range` received {name}={v.text} but `{shown}` can only be a number")
  | none =>
    match otherwise with
    | some n => .ok n
    | none => .error missing

def steps (step : Nat) : Nat → Nat → Nat → List Nat
  | 0, _, _ => []
  | fuel + 1, i, stop => if i < stop then i :: steps step fuel (i + step) stop else []

def range : Function := fun args => do
  let missing := CallFault.said "Function `range` was called without a `end` argument"
  let start ← count "start" "start" (some 0) missing args
  let step ← count "step_by" "step" (some 1) missing args
  let stop ← count "end" "end" none missing args
  if stop < start then
    throw (.said "Function `range` was called with a `start` argument greater than the `end` one")
  pure (.array ((steps step (stop - start) start stop).map Json.ofNat))

def throwMessage : Function := fun args =>
  match Json.lookup "message" args with
  | some (.string s) => .error (.said s)
  | some v => .error (.said s!"Function `throw` received message={v.text} but `message` can only be a string")
  | none => .error (.said "Function `throw` was called without a `message` argument")

def builtIn : List (String × Function) := [("range", range), ("throw", throwMessage)]

def helpers : List (String × Function) := [("join_path", Filter.joinPath)]

def named? (name : String) : Option Function := (helpers ++ builtIn).lookup name

end Function
end ApiStencil.Template
