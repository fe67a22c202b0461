import ApiStencil.Json.Printer
/-!
Calls of filters, functions and tests: named arguments, what can be wrong with them, and reading an
argument as a value of a wanted kind.
-/
set_option autoImplicit false

namespace ApiStencil.Template

abbrev Args := List (String × Json)

inductive CallFault where
  /-- The piped value is of another kind than the wanted one. -/
  | value (filter : String) (got : Json) (wanted : String)
  | argument (filter name : String) (got : Json) (wanted : String)
  | missing (filter name : String)
  | said (text : String)

def CallFault.message : CallFault → String
  | .value filter got wanted =>
    s!"Filter `{filter}` was called on an incorrect value: got `{got.text}` but expected a {wanted}"
  | .argument filter name got wanted =>
    s!"Filter `{filter}` received an incorrect type for arg `{name}`: got `{got.text}` but expected a {wanted}"
  | .missing filter name => s!"Filter `{filter}` expected an arg called `{name}`"
  | .said text => text

abbrev Answer (α : Type) := Except CallFault α

/-- A filter takes the piped value and the named arguments. -/
abbrev Filter := Json → Args → Answer Json

/-- A kind of value, with its name in messages. -/
structure Kind (α : Type) where
  name : String
  read? : Json → Option α

namespace Kind

def string : Kind String := ⟨"String", Json.str?⟩

def bool : Kind Bool :=
  ⟨"bool", fun v => match v with
    | .bool b => some b
    | _ => none⟩

def list : Kind (List Json) :=
  ⟨"Vec<Value>", fun v => match v with
    | .array items => some items
    | _ => none⟩

def float : Kind Float :=
  ⟨"f64", fun v => match v with
    | .number n => some n.toFloat
    | _ => none⟩

/-- An integer from `lo` to `hi`. -/
def integer (name : String) (lo hi : Int) : Kind Int :=
  ⟨name, fun v => match v with
    | .number (.int n) => if lo ≤ n && n ≤ hi then some n else none
    | _ => none⟩

def size : Kind Nat :=
  ⟨"usize", fun v => ((integer "usize" 0 Number.maxNat).read? v).map Int.toNat⟩

end Kind

def valueAs {α : Type} (k : Kind α) (filter : String) (v : Json) : Answer α :=
  match k.read? v with
  | some a => .ok a
  | none => .error (.value filter v k.name)

/-- An argument that may be left out. -/
def argument? {α : Type} (k : Kind α) (filter name : String) (args : Args) : Answer (Option α) :=
  match Json.lookup name args with
  | none => .ok none
  | some v =>
    match k.read? v with
    | some a => .ok (some a)
    | none => .error (.argument filter name v k.name)

def argumentOr {α : Type} (k : Kind α) (filter name : String) (args : Args) (otherwise : α) : Answer α :=
  (argument? k filter name args).map fun a => a.getD otherwise

/-- An argument that has to be there. -/
def argument {α : Type} (k : Kind α) (filter name : String) (args : Args) (fault : CallFault) : Answer α :=
  match argument? k filter name args with
  | .error e => .error e
  | .ok none => .error fault
  | .ok (some a) => .ok a

end ApiStencil.Template
