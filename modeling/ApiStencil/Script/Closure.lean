import ApiStencil.Script.Operator
import ApiStencil.Script.Scope
/-!
Functions of a script, and what instances get from the class they are made by.
-/
set_option autoImplicit false

namespace ApiStencil.Script

/-- How many arguments a function expects. -/
def Code.arity (c : Code) : Nat := (c.params.takeWhile fun p => p.otherwise.isNone).length

/-- Whether `new` may be applied to the function. -/
def Code.constructs (c : Code) : Bool :=
  match c.kind with
  | .plain => !c.isAsync && !c.isGenerator
  | .base | .derived => true
  | .arrow | .method => false

def Code.isClass (c : Code) : Bool := c.kind == .base || c.kind == .derived

/-- What functions of this form inherit from. -/
def Code.family (c : Code) : Intrinsic :=
  match c.isAsync, c.isGenerator with
  | false, false => .proto .function
  | false, true => .fixture .generatorFunction
  | true, false => .fixture .asyncFunction
  | true, true => .fixture .asyncGeneratorFunction

namespace M

/-- The name of a function under a key. -/
def nameOfKey (k : Key) : M Units := do
  match k with
  | .name u => return u
  | .symbol n =>
    match ((← look).symbols[n]?).bind (·.description) with
    | some d => return txt "[" ++ d ++ txt "]"
    | none => return #[]

def functionSlots (arity : Nat) (name : Units) : Array (Key × Slot) :=
  #[(lengthKey, .data (.ofNat arity) false false true), (.ofString "name", .data (.text name) false false true)]

/-- A function of the script, under a name. -/
def newClosureNamed (code : Code) (name : Units) (env : Env) (home : Option Nat) : M Nat := do
  let own := functionSlots code.arity name
  let slots :=
    if code.constructs || code.isGenerator then own.push (.ofString "prototype", .instances) else own
  if code.bindsName then
    let env ← Env.within env #[⟨code.name, none, false⟩]
    let r ← newObject ⟨some code.family.ref, true, .closure ⟨code, env, home, []⟩, slots⟩
    startName env code.name (.object r)
    return r
  else newObject ⟨some code.family.ref, true, .closure ⟨code, env, home, []⟩, slots⟩

def newClosure (code : Code) (env : Env) (home : Option Nat) : M Value := do
  return .object (← newClosureNamed code code.name env home)

/-- Makers of the library, but those that only convert. -/
def isMaker (r : Nat) : Bool :=
  Family.all.any fun f => (Intrinsic.maker f).ref == r && f != .symbol && f != .bigint

/-- Whether `new` may be applied to an object. -/
def constructs : Nat → Nat → M Bool
  | 0, _ => return false
  | n + 1, r => do
    match ← kindOf r with
    | .closure c => return c.code.constructs
    | .native _ _ => return isMaker r
    | .bound (.object t) _ _ => constructs n t
    | .proxy _ _ _ ok => return ok
    | _ => return false

def isConstructor (v : Value) : M Bool := do
  match v with
  | .object r => constructs reach r
  | _ => return false

/-- Refuses what `new` may not be applied to. -/
def needConstructor (v : Value) : M Unit := do
  if ← isConstructor v then return ()
  if ← isCallable v then
    match ← getNamed v "name" with
    | .text u => typeError s!"{u.toText} is not a constructor"
    | _ => typeError "not a constructor"
  else if v.isObject then typeError "not a constructor"
  else typeError "not a function"

/-- What an object made with `new` inherits from. -/
def instanceProto (newTarget : Value) (otherwise : Intrinsic) : M Nat := do
  match ← getNamed newTarget "prototype" with
  | .object p => return p
  | _ => return otherwise.ref

def hiddenName (symbol : Nat) : M String := keyName (.symbol symbol)

def noHidden {α : Type} (symbol : Nat) : M α := do
  typeError s!"private class field '{← hiddenName symbol}' does not exist"

/-- A member that only its class knows. -/
def hiddenSlot? (v : Value) (symbol : Nat) : M (Option (Nat × Nat × Slot)) := do
  match v with
  | .object r => return (Obj.slot? (← object r) (.symbol symbol)).map fun (i, s) => (r, i, s)
  | _ => return none

def getHidden (v : Value) (symbol : Nat) : M Value := do
  match ← hiddenSlot? v symbol with
  | some (_, _, .data w _ _ _) => return w
  | some (_, _, .accessor g _ _ _) => callOrFail g v []
  | _ => noHidden symbol

def setHidden (v : Value) (symbol : Nat) (new : Value) : M Unit := do
  match ← hiddenSlot? v symbol with
  | some (r, i, .data _ true _ _) => setSlotAt r i (.symbol symbol) (.data new true false false)
  | some (_, _, .data _ false _ _) => typeError s!"'{← hiddenName symbol}' is read-only"
  | some (_, _, .accessor _ s _ _) =>
    let _ ← callOrFail s v [new]
  | _ => noHidden symbol

/-- Adds a hidden member; a getter and a setter of one name become one member. -/
def addHidden (r symbol : Nat) (s : Slot) : M Unit := do
  match Obj.slot? (← object r) (.symbol symbol), s with
  | some (i, .accessor g t _ _), .accessor g2 t2 _ _ =>
    let pick := fun (a b : Value) => match b with
      | .undefined => a
      | b => b
    setSlotAt r i (.symbol symbol) (.accessor (pick g g2) (pick t t2) false false)
  | some _, _ => typeError "private class field already exists"
  | none, s => addSlot r (.symbol symbol) s

/-- Gives a new instance its fields, in the order of their declaration. -/
def addMembers (members : List Member) (r : Nat) : M Unit := do
  for m in members do
    match m with
    | .hidden symbol slot => addHidden r symbol slot
    | .field _ _ => pure ()
  for m in members do
    match m with
    | .hidden _ _ => pure ()
    | .field key init =>
      let v ← match init with
        | some f => call (.object f) (.object r) []
        | none => pure .undefined
      match key with
      | .symbol n => if ← isHidden n then addHidden r n (.data v true false false) else create r key v
      | .name _ => create r key v

def membersOf (f : Nat) : M (List Member) := do
  match ← kindOf f with
  | .closure c => return c.members
  | _ => return []

end M
end ApiStencil.Script
