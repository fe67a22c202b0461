import ApiStencil.Script.Activation
import ApiStencil.Script.Reader.Stmt
/-!
Calls: how a function is entered and what it gives back. Each level of calls holds the links to the
next one, so the depth of calls is bounded by construction.
-/
set_option autoImplicit false

namespace ApiStencil.Script
namespace M

/-- Parameters without defaults and patterns get their values at once. -/
def simpleParams : List PatternItem → Option (List Units)
  | [] => some []
  | ⟨some (.name n), none⟩ :: rest => (simpleParams rest).map (n :: ·)
  | _ => none

def bindParams (env : Env) : List PatternItem → Option Pattern → List Value → M Unit
  | [], none, _ => return ()
  | [], some p, args => do bind depth env true p (← newList args)
  | item :: items, rest, args => do
    bindItem depth env true item (args.headD .undefined)
    bindParams env items rest (args.drop 1)

/-- The scope of a call: parameters, variables, functions and other declarations of the body. -/
def enterBody (env : Env) (code : Code) (args : List Value) : M Env := do
  let body := code.body
  let simple := if code.rest.isNone then simpleParams code.params else none
  let params := match simple with
    | some names => names.zipIdx.map fun (n, i) => Binding.mk n (some (args.getD i .undefined)) true
    | none => (itemNames code.params ++ restNames code.rest).map fun n => Binding.mk n none true
  let isParam := fun (n : Units) => params.any fun b => b.name == n
  let vars := (body.vars.filter fun n => !isParam n).map fun n => Binding.mk n (some .undefined) true
  let functions := body.block.functions.filter fun c => !isParam c.name && !body.vars.contains c.name
  let names := body.block.names.map fun (n, changes) => Binding.mk n none changes
  let scope := params ++ vars ++ functions.map (fun c => Binding.mk c.name none true) ++ names
  let env ← if scope.isEmpty then pure env else Env.within env scope.toArray
  if simple.isNone then bindParams env code.params code.rest args
  for c in body.block.functions do
    startName env c.name (← newClosure c env none)
  return env

/-- The outcome of `x` as a promise; a promise stands for itself. -/
def promised (x : M Value) : M Value := do
  match ← settled x with
  | .fulfilled (.object r) =>
    match ← kindOf r with
    | .promise _ => return .object r
    | _ => newPromise (.fulfilled (.object r))
  | s => newPromise s

def result (e : Ending) : M Value := do
  match e with
  | .done (.give v) => return v
  | .done (.thrown v) => throwValue v
  | .done _ | .handedOut _ _ => return .undefined

/-- What a generator function gives: a body that has not begun. -/
def newGenerator (r : Nat) (code : Code) (a : Activation) : M Value := do
  let otherwise := if code.isAsync then Intrinsic.fixture .asyncGenerator else .fixture .generator
  let proto ← instanceProto (.object r) otherwise
  return .object (← newObject ⟨some proto, true, .generator (.suspended a), #[]⟩)

/-- Runs the body of a function in its environment. -/
def runBody (r : Nat) (code : Code) (env : Env) (args : List Value) : M Value := do
  let enterIt := do
    let env ← enterBody env code args
    return running code.body.block.stmts [] env
  if code.isGenerator then newGenerator r code (← enterIt)
  else
    let go := do result (← run endless (← enterIt))
    if code.isAsync then promised go else go

def callClosure (r : Nat) (c : Closure) (this : Value) (args : List Value) : M Value := do
  if c.code.isClass then typeError "class constructors must be invoked with 'new'"
  let context ← match c.code.kind with
    | .arrow => pure c.env.context
    | _ => newContext ⟨some this, some r, c.home, .undefined, args, none⟩
  runBody r c.code { c.env with context } args

def constructClosure (r : Nat) (c : Closure) (args : List Value) (newTarget : Value) : M Value := do
  let this ← match c.code.kind with
    | .derived => pure none
    | _ => do
      let o ← newObject ⟨some (← instanceProto newTarget (.proto .object)), true, .plain, #[]⟩
      addMembers c.members o
      pure (some (Value.object o))
  let context ← newContext ⟨this, some r, c.home, newTarget, args, none⟩
  let env := { c.env with context }
  let v ← runBody r c.code env args
  match v, c.code.kind with
  | .object _, _ => return v
  | .undefined, .derived => thisOf env
  | _, .derived => typeError "derived class constructor must return an object or undefined"
  | _, _ => thisOf env

/-- Functions of the library by their number. -/
abbrev Natives := Nat → Call → M Value

def callWith (natives : Natives) (f this : Value) (args : List Value) : M Value := do
  poll
  match f with
  | .object r =>
    match ← kindOf r with
    | .closure c => callClosure r c this args
    | .native id data => natives id ⟨this, args, .undefined, data⟩
    | .bound target this first => call target this (first ++ args)
    | .proxy target handler true _ =>
      let (t, h) ← proxyParts target handler
      match ← trapAt reach h "apply" with
      | none => call (.object t) this args
      | some trap => callOrFail trap (.object h) [.object t, this, (← newList args)]
    | _ => typeError "not a function"
  | _ => typeError "not a function"

def constructWith (natives : Natives) (f : Value) (args : List Value) (newTarget : Value) : M Value := do
  poll
  needConstructor f
  match f with
  | .object r =>
    match ← kindOf r with
    | .closure c => constructClosure r c args newTarget
    | .native id data => natives id ⟨.undefined, args, newTarget, data⟩
    | .bound target _ first =>
      construct target (first ++ args) (if sameValue newTarget f then target else newTarget)
    | .proxy target handler _ _ =>
      let (t, h) ← proxyParts target handler
      match ← trapAt reach h "construct" with
      | none => construct (.object t) args (if sameValue newTarget f then .object t else newTarget)
      | some trap =>
        let v ← callOrFail trap (.object h) [.object t, (← newList args), newTarget]
        if v.isObject then return v else typeError "proxy: constructor must return an object"
    | _ => typeError "not a function"
  | _ => typeError "not a function"

/-- Goes on with a generator, to its next value or to its end. -/
def resumeBody (r : Nat) (how : Resumption) : M Value := do
  poll
  match ← kindOf r with
  | .generator (.suspended a) =>
    setKind r (.generator .running)
    match ← goOn a how with
    | .handedOut v a =>
      setKind r (.generator (.suspended a))
      newRound v false
    | .done c =>
      setKind r (.generator .finished)
      match c with
      | .give v => newRound v true
      | .thrown v => throwValue v
      | _ => newRound .undefined true
  | .generator .running => typeError "cannot invoke a running generator"
  | .generator .finished =>
    match how with
    | .next _ => newRound .undefined true
    | .throw v => throwValue v
    | .give v => newRound v true
  | _ => typeError "not a generator"

/-- A body that gives the value of its last statement, if that is an expression. -/
def givingLast (b : Body) : Body :=
  match b.block.stmts.reverse with
  | .expr e :: rest => { b with block := { b.block with stmts := (Stmt.give (some e) :: rest).reverse } }
  | _ => b

/-- The environment of a script's own statements. -/
def scriptEnv : Env := ⟨[0], 0⟩

/-- Runs a text as a script whose declarations are its own. -/
def evaluateText (u : Units) (env : Option Env) : M Value := do
  match Body.read? u.toText.toList Reader.Site.script with
  | none => fail .syntaxKind "invalid script"
  | some b =>
    let code : Code := ⟨#[], .arrow, false, false, false, [], none, givingLast b, u⟩
    let env ← enterBody (env.getD scriptEnv) code []
    result (← run endless (running code.body.block.stmts [] env))

/-- Calls that end at once. -/
def noLinks : Links :=
  let waits : Exec Value := throw .waiting
  ⟨fun _ _ _ => waits, fun _ _ _ => waits, fun _ _ => waits, fun _ _ => waits⟩

/-- Links for `n` levels of calls. -/
def links (natives : Natives) : Nat → Links
  | 0 =>
    let ends : Exec Value := ReaderT.run tooDeep noLinks
    ⟨fun _ _ _ => ends, fun _ _ _ => ends, fun _ _ => ends, fun _ _ => ends⟩
  | n + 1 =>
    { call := fun f this args => ReaderT.run (callWith natives f this args) (links natives n)
      construct := fun f args newTarget => ReaderT.run (constructWith natives f args newTarget) (links natives n)
      resume := fun r how => ReaderT.run (resumeBody r how) (links natives n)
      evaluate := fun u env => ReaderT.run (evaluateText u env) (links natives n) }

/-- How deep calls may be nested. -/
def callDepth : Nat := 1200

end M
end ApiStencil.Script
