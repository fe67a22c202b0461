import ApiStencil.Script.Convert
/-!
Names in view. A name that no scope binds is a property of the global object; in a function,
`arguments` is the list it has been called with.
-/
set_option autoImplicit false

namespace ApiStencil.Script
namespace M

/-- The innermost scope that binds a name, the place there and the binding. -/
def findName (name : Units) : List Nat → M (Option (Nat × Nat × Binding))
  | [] => return none
  | scope :: rest => do
    match (← look).scopes[scope]? with
    | none => findName name rest
    | some bindings =>
      match bindings.findIdx? fun b => b.name == name with
      | none => findName name rest
      | some i => return (bindings[i]?).map fun b => (scope, i, b)

def context? (env : Env) : M (Option Context) := do
  return (← look).contexts[env.context]?

/-- The object that holds the arguments of a call. -/
def argumentsOf (id : Nat) (c : Context) : M Value := do
  match c.arguments with
  | some r => return .object r
  | none =>
    let r ← newPlain (.proto .object) .arguments
    for (v, i) in c.args.zipIdx do
      addSlot r (.ofIndex i) (shown v)
    addSlot r lengthKey (concealed (.ofNat c.args.length))
    addSlot r KnownSymbol.iterator.key
      (concealed (← getFrom (Intrinsic.proto .array).ref (.ofString "values") .undefined))
    modifyContext id fun c => { c with arguments := some r }
    return .object r

/-- The value of a name that no scope binds. -/
def readFree (env : Env) (name : Units) : M (Option Value) := do
  let inFunction ← match ← context? env with
    | some c => pure (if name == txt "arguments" && c.function.isSome then some c else none)
    | none => pure none
  match inFunction with
  | some c => return some (← argumentsOf env.context c)
  | none =>
    if ← hasKey Store.globalRef (.name name) then
      return some (← getFrom Store.globalRef (.name name) (.object Store.globalRef))
    else return none

def readName (env : Env) (name : Units) : M Value := do
  match ← findName name env.scopes with
  | some (_, _, b) =>
    match b.value with
    | some v => return v
    | none => fail .reference s!"{name.toText} is not initialized"
  | none =>
    match ← readFree env name with
    | some v => return v
    | none => fail .reference s!"{name.toText} is not defined"

/-- The kind of the value of a name, also of a name that is not in view. -/
def readNameOrNothing (env : Env) (name : Units) : M Value := do
  match ← findName name env.scopes with
  | some _ => readName env name
  | none => return (← readFree env name).getD .undefined

def setBinding (scope i : Nat) (v : Value) : M Unit :=
  modifyScope scope fun bs => bs.modify i fun b => { b with value := some v }

/-- An assignment to a name. -/
def writeName (env : Env) (name : Units) (v : Value) : M Unit := do
  match ← findName name env.scopes with
  | some (scope, i, b) =>
    if b.value.isNone then fail .reference s!"{name.toText} is not initialized"
    if !b.changes then typeError s!"'{name.toText}' is read-only"
    setBinding scope i v
  | none =>
    if ← hasKey Store.globalRef (.name name) then putMember (.object Store.globalRef) (.name name) v
    else fail .reference s!"{name.toText} is not defined"

/-- The value that a declaration gives to its name. -/
def startName (env : Env) (name : Units) (v : Value) : M Unit := do
  match ← findName name env.scopes with
  | some (scope, i, _) => setBinding scope i v
  | none => putMember (.object Store.globalRef) (.name name) v

/-- The environment with one more scope. -/
def Env.within (env : Env) (bindings : Scope) : M Env := do
  let scope ← newScope bindings
  return { env with scopes := scope :: env.scopes }

/-- The function that the code belongs to. -/
def functionOf (env : Env) : M (Option Nat) := do
  return (← context? env).bind (·.function)

def thisOf (env : Env) : M Value := do
  match (← context? env).bind (·.this) with
  | some v => return v
  | none => fail .reference "this is not initialized"

/-- The object that members of the parent are looked up in. -/
def parentOf (env : Env) : M Value := do
  match (← context? env).bind (·.home) with
  | some h => return protoValue (← proto? h)
  | none => fail .syntaxKind "'super' is not in view"

/-- The symbol behind a name that only its class knows. -/
def hiddenSymbol (env : Env) (name : Units) : M Nat := do
  match ← findName (txt "#" ++ name) env.scopes with
  | some (_, _, ⟨_, some (.symbol id), _⟩) => return id
  | _ => fail .syntaxKind "undefined private field"

end M
end ApiStencil.Script
