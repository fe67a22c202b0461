import ApiStencil.Script.Closure
import ApiStencil.Script.Search
/-!
Functions of the library as data: where each one is found, and what it does.
-/
set_option autoImplicit false

namespace ApiStencil.Script

inductive Native.Role where
  | method
  /-- A method that is listed among the properties of its object. -/
  | listed
  | getter
  | setter
  /-- The function that makes the values of a family. -/
  | maker
  /-- A function that is made by others when they need it. -/
  | inner (i : Inner)

structure Native where
  home : Intrinsic
  key : Key
  name : Units
  arity : Nat
  role : Native.Role
  run : Call → M Value

namespace Native

def method (home : Intrinsic) (name : String) (arity : Nat) (run : Call → M Value) : Native :=
  ⟨home, .ofString name, txt name, arity, .method, run⟩

def listed (home : Intrinsic) (name : String) (arity : Nat) (run : Call → M Value) : Native :=
  ⟨home, .ofString name, txt name, arity, .listed, run⟩

def symbolMethod (home : Intrinsic) (s : KnownSymbol) (arity : Nat) (run : Call → M Value) : Native :=
  ⟨home, s.key, txt s!"[Symbol.{s.name}]", arity, .method, run⟩

def getter (home : Intrinsic) (name : String) (run : Call → M Value) : Native :=
  ⟨home, .ofString name, txt name, 0, .getter, run⟩

def symbolGetter (home : Intrinsic) (s : KnownSymbol) (run : Call → M Value) : Native :=
  ⟨home, s.key, txt s!"[Symbol.{s.name}]", 0, .getter, run⟩

/-- The other half of the getter in the row before. -/
def setter (home : Intrinsic) (name : String) (run : Call → M Value) : Native :=
  ⟨home, .ofString name, txt name, 1, .setter, run⟩

def maker (f : Family) (arity : Nat) (run : Call → M Value) : Native :=
  ⟨.maker f, .ofString f.name, txt f.name, arity, .maker, run⟩

def inner (i : Inner) (name : String) (arity : Nat) (run : Call → M Value) : Native :=
  ⟨.fixture .global, .ofString name, txt name, arity, .inner i, run⟩

end Native

namespace M

def needObject (v : Value) : M Nat := do
  match v with
  | .object r => return r
  | _ => typeError "not an object"

def needFunction (v : Value) : M Unit := do
  if !(← isCallable v) then typeError "not a function"

/-- Refuses a call without `new`. -/
def needNew (c : Call) : M Unit := do
  match c.newTarget with
  | .undefined => typeError "constructor requires 'new'"
  | _ => return ()

/-- An object of a family, which inherits from what `new` was applied to. -/
def newInstance (c : Call) (f : Family) (kind : Kind) : M Nat := do
  match c.newTarget with
  | .undefined => newPlain (.proto f) kind
  | t => newObject ⟨some (← instanceProto t (.proto f)), true, kind, #[]⟩

/-- A function of the library that is made now, with values of its own. -/
def newInner (i : Inner) (data : List Value) (name : String) (arity : Nat) : M Value :=
  newNative i.id data (txt name) arity

def boolean (b : Bool) : M Value := return .bool b

def undefined : M Value := return .undefined

def text (u : Units) : M Value := return .text u

end M
end ApiStencil.Script
