import ApiStencil.Script.Lift
import ApiStencil.Script.Reader.Pattern
/-!
Functions: their parameters, their bodies and the lists of statements that make up bodies and blocks.
-/
set_option autoImplicit false

namespace ApiStencil.Script.Reader

/-- What stands in a list of statements. -/
inductive Item where
  | stmt (s : Stmt) (names : List (Units × Bool))
  | function (code : Code)

def Item.stmt? : Item → Option Stmt
  | .stmt s _ => some s
  | .function _ => none

def Item.code? : Item → Option Code
  | .stmt _ _ => none
  | .function c => some c

def Item.names : Item → List (Units × Bool)
  | .stmt _ names => names
  | .function _ => []

def blockOf (items : List Item) : Block :=
  ⟨items.filterMap Item.code?, items.flatMap Item.names, items.filterMap Item.stmt?⟩

/-- A block, in which no name is declared twice. -/
def block (items : Reader (List Item)) : Reader Block := do
  let before := (← get).vars
  modify fun s => { s with vars := [] }
  let found ← items
  let vars := (← get).vars
  modify fun s => { s with vars := before ++ vars }
  let b := blockOf found
  let names := b.names.map (·.1) ++ b.functions.map (·.name)
  guard (!repeats names && !names.any vars.contains)
  return b

/-- The body of a function or a script, whose functions are variables. -/
def body (params : List Units) (items : Reader (List Item)) : Reader Body := do
  let before := (← get).vars
  modify fun s => { s with vars := [] }
  let found ← items
  let vars := (← get).vars
  modify fun s => { s with vars := before }
  let b := blockOf found
  let names := b.names.map (·.1)
  guard (!repeats names && !names.any fun n =>
    vars.contains n || params.contains n || b.functions.any fun c => c.name == n)
  return ⟨vars.eraseDups, b⟩

structure Header where
  kind : CodeKind
  isAsync : Bool
  isGenerator : Bool

def Header.plain : Header := ⟨.plain, false, false⟩

/-- What the code inside a function may do. -/
def Header.site (h : Header) (around : Site) : Site :=
  let inner : Site := { Site.script with returns := true, awaits := h.isAsync, yields := h.isGenerator }
  match h.kind with
  | .plain => { inner with newTarget := true }
  | .arrow =>
    { inner with
      parentCall := around.parentCall, parentMember := around.parentMember, newTarget := around.newTarget }
  | .method | .base => { inner with newTarget := true, parentMember := true }
  | .derived => { inner with newTarget := true, parentMember := true, parentCall := true }

/-- Parameters up to the closing parenthesis. -/
def params (g : Grammar) : Nat → Reader (List PatternItem × Option Pattern)
  | 0 => failure
  | n + 1 => do
    if ← eatSign ")" then return ([], none)
    if ← eatSign "..." then
      let rest ← g.pattern
      sign ")"
      return ([], some rest)
    let item ← patternItem g
    if ← eatSign "," then
      let (items, rest) ← params g n
      return (item :: items, rest)
    sign ")"
    return ([item], none)

def paramList (g : Grammar) : Reader ((List PatternItem × Option Pattern) × List Units) := do
  let fuel := (← get).src.size + 1
  let (ps, names) ← binds do
    sign "("
    params g fuel
  guard (!repeats names)
  return (ps, names)

/-- A generator's body with its values handed out by statements of their own. -/
def finish (c : Code) : Code := if c.isGenerator then { c with body := Lift.body c.body } else c

/-- Parameters and body between braces. -/
def functionRest (g : Grammar) (items : Reader (List Item)) (h : Header) (name : Units) (start : Nat) :
    Reader Code := do
  meetFunction
  within h.site do
    let ((ps, rest), names) ← paramList g
    sign "\x7b"
    let (b, _) ← binds (body names items)
    return finish ⟨name, h.kind, h.isAsync, h.isGenerator, false, ps, rest, b, (← textSince start)⟩

/-- The body of an arrow function, an expression or a block. -/
def arrowBody (g : Grammar) (items : Reader (List Item)) (allowIn : Bool) (names : List Units) : Reader Body := do
  if ← eatSign "\x7b" then
    let (b, _) ← binds (body names items)
    return b
  let (e, _) ← binds (g.assignment allowIn)
  return ⟨[], .ofStmts [.give (some e)]⟩

def arrowRest (g : Grammar) (items : Reader (List Item)) (allowIn isAsync : Bool) (start : Nat)
    (ps : List PatternItem × Option Pattern) (names : List Units) : Reader Expr := do
  meetFunction
  let h : Header := ⟨.arrow, isAsync, false⟩
  let b ← within h.site (arrowBody g items allowIn names)
  return .function ⟨#[], .arrow, isAsync, false, false, ps.1, ps.2, b, (← textSince start)⟩

/-- A function with an optional name of its own, from its keyword on. -/
def functionExpr (g : Grammar) (items : Reader (List Item)) (isAsync : Bool) (start : Nat) : Reader Expr := do
  word "function"
  let isGenerator ← eatSign "*"
  let name := (← binds (optional binding)).1
  let c ← functionRest g items ⟨.plain, isAsync, isGenerator⟩ (name.getD #[]) start
  return .function { c with bindsName := name.isSome }

/-- A method, from its parameters on. -/
def method (g : Grammar) (items : Reader (List Item)) (isAsync isGenerator : Bool) (key : FieldKey)
    (start : Nat) : Reader Code :=
  let name := match key with
    | .fixed k => k
    | .computed _ => #[]
  functionRest g items ⟨.method, isAsync, isGenerator⟩ name start

/-- A getter or setter, which takes exactly `arity` values. -/
def accessor (g : Grammar) (items : Reader (List Item)) (arity : Nat) (key : FieldKey) (start : Nat) :
    Reader Code := do
  let c ← method g items false false key start
  guard (c.params.length + (if c.rest.isSome then 1 else 0) == arity)
  return c

end ApiStencil.Script.Reader
