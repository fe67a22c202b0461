import ApiStencil.Script.Library.Native
/-!
Symbols and truth values.
-/
set_option autoImplicit false

namespace ApiStencil.Script.Library.Symbols
open M

def proto : Intrinsic := .proto .symbol

def maker : Intrinsic := .maker .symbol

def make (c : Call) : M Value := do
  let description ← match c.arg 0 with
    | .undefined => pure none
    | v => do pure (some (← toText v))
  return .symbol (← newSymbol description false)

def forName (c : Call) : M Value := do
  let name ← toText (c.arg 0)
  match (← look).shared.lookup name with
  | some id => return .symbol id
  | none =>
    let id ← newSymbol (some name) false
    alter (fun s => { s with shared := (name, id) :: s.shared }) fun _ => .of_same rfl rfl rfl
    return .symbol id

def keyFor (c : Call) : M Value := do
  match c.arg 0 with
  | .symbol id =>
    match (← look).shared.find? fun (_, other) => other == id with
    | some (name, _) => text name
    | none => undefined
  | _ => typeError "not a symbol"

def thisSymbol (c : Call) : M Nat := do
  match c.this with
  | .symbol id => return id
  | v =>
    match ← kind? v with
    | some (.symbol id) => return id
    | _ => typeError "not a symbol"

def descriptionOf (id : Nat) : M (Option Units) := do
  return ((← look).symbols[id]?).bind (·.description)

def toString (c : Call) : M Value := do
  let d ← descriptionOf (← thisSymbol c)
  text (txt "Symbol(" ++ d.getD #[] ++ txt ")")

def description (c : Call) : M Value := do
  match ← descriptionOf (← thisSymbol c) with
  | some u => text u
  | none => undefined

def makeBool (c : Call) : M Value := do
  let b := truthy (c.arg 0)
  match c.newTarget with
  | .undefined => boolean b
  | _ => return .object (← newInstance c .bool (.bool b))

def thisBool (c : Call) : M Bool := do
  match c.this with
  | .bool b => return b
  | v =>
    match ← kind? v with
    | some (.bool b) => return b
    | _ => typeError "not a boolean"

def rows : List Native :=
  [.maker .symbol 0 make, .method maker "for" 1 forName, .method maker "keyFor" 1 keyFor,
    .method proto "toString" 0 toString, .method proto "valueOf" 0 (fun c => do return .symbol (← thisSymbol c)),
    .symbolMethod proto .toPrimitive 1 (fun c => do return .symbol (← thisSymbol c)),
    .getter proto "description" description, .maker .bool 1 makeBool,
    .method (.proto .bool) "toString" 0 (fun c => do return .ofString (if ← thisBool c then "true" else "false")),
    .method (.proto .bool) "valueOf" 0 fun c => do boolean (← thisBool c)]

end ApiStencil.Script.Library.Symbols
