import ApiStencil.Template.Arithmetic
import ApiStencil.Template.Registry
import ApiStencil.Template.Test
import ApiStencil.Text.Grapheme
/-!
Rendering templates. Commands come from outside with a world of their own, which every call may
change; a failing call leaves the world as the call left it.
-/
set_option autoImplicit false

namespace ApiStencil.Template

/-- What stays the same while a template is rendered. -/
structure Env (W : Type) where
  set : Set
  registry : Registry W
  context : List (String × Json)
  target : Template
  /-- The templates that the target inherits from, nearest first. -/
  ancestors : List Template

/-- Filters that are part of the language and not looked up. -/
def isMark (name : String) : Bool := name == "safe" || name == "default"

namespace Eval

variable {W : Type}

def pushFrame (f : Frame) : Eval W Unit :=
  modify fun st => { st with frames := f :: st.frames }

def popFrame : Eval W Unit :=
  modify fun st => { st with frames := st.frames.drop 1 }

def activeTemplate : Eval W String := do
  return ((← get).frames.head?.map (·.template)).getD ""

def setTop (f : Frame → Frame) : List Frame → List Frame
  | [] => []
  | top :: rest => f top :: rest

def setBelowLoops (f : Frame → Frame) : List Frame → List Frame
  | [] => []
  | top :: rest => if top.kind == .loop then top :: setBelowLoops f rest else f top :: rest

/-- Binds a variable in the frame on top, or in the first one that is not a loop. -/
def assign (key : String) (global : Bool) (v : Json) : Eval W Unit :=
  let bind := fun f : Frame => { f with locals := Json.insertField key v f.locals }
  modify fun st => { st with frames := (if global then setBelowLoops bind else setTop bind) st.frames }

def topLoop : Eval W (Option Loop) := do
  return (← get).frames.head?.bind (·.loop)

def setLoopState (s : LoopState) (outside : Problem) : Eval W Unit := do
  match ← topLoop with
  | none => problem outside
  | some _ =>
    modify fun st =>
      { st with frames := setTop (fun f => { f with loop := f.loop.map fun l => { l with state := s } }) st.frames }

/-- The next round of the loop on top, which forgets what was bound in this one. -/
def advanceLoop : Eval W Unit :=
  modify fun st =>
    { st with frames := setTop (fun f =>
        { f with
          locals := []
          loop := f.loop.map fun l => { l with current := l.current + 1, state := .running } }) st.frames }

def leavesBody : Eval W Bool := do
  return (← topLoop).any fun l => l.state != .running

def leavesLoop : Eval W Bool := do
  return (← topLoop).any fun l => l.state == .leaving

/-- Runs `x` with escaping off. -/
def plainly {α : Type} (x : Eval W α) : Eval W α := do
  let before := (← get).escapes
  modify fun st => { st with escapes := false }
  x.ending fun st => { st with escapes := before }

def emit (s : String) : Eval W Unit :=
  modify fun st => { st with written := s :: st.written }

/-- The text that `x` writes, kept from the text around it. -/
def captured (x : Eval W Unit) : Eval W String := do
  let before := (← get).written
  modify fun st => { st with written := [] }
  let written := do
    x
    return (← get).written
  let inner ← written.ending fun st => { st with written := before }
  return String.join inner.reverse

/-- Steps one after another, until the body is to be left. -/
def inOrder (step : Node → Eval W Unit) : List Node → Eval W Unit
  | [] => pure ()
  | n :: rest => do
    step n
    if !(← leavesBody) then inOrder step rest

/-- A value that runs through filters one after another, and whether it may need escaping. Marks stand for no step. -/
def piped (step : Json → Call → Eval W Json) : Json × Bool → List Call → Eval W (Json × Bool)
  | v, [] => pure v
  | v, c :: rest => do
    if isMark c.name then piped step v rest
    else piped step (← step v.1 c, true) rest

/-- The rounds of the loop on top. -/
def rounds (body : Eval W Unit) : Nat → Eval W Unit
  | 0 => pure ()
  | n + 1 => do
    body
    if !(← leavesLoop) then
      advanceLoop
      rounds body n

end Eval

def Env.hasFilter {W : Type} (env : Env W) (name : String) : Bool := (env.registry.filter? name).isSome

def Env.hasFunction {W : Type} (env : Env W) (name : String) : Bool := (env.registry.function? name).isSome

/-- Macro names of `more` that `spaces` does not have yet are added to it. -/
def inherit (spaces more : Spaces) : Spaces :=
  spaces ++ more.filter fun x => !spaces.any (·.1 == x.1)

/-- The macros in view of a template and of all that it loads from or inherits from. -/
def collectSpaces (set : Set) : Nat → Template → List (String × Spaces) → List (String × Spaces)
  | 0, _, found => found
  | fuel + 1, t, found =>
    if found.any (·.1 == t.name) then found
    else
      let own : Spaces := if t.macros.isEmpty then [] else [("self", t.name, t.macros)]
      let (spaces, found) := t.imports.foldl (fun (acc : Spaces × List (String × Spaces)) (file, space) =>
        match set.get? file with
        | none => acc
        | some m =>
          let spaces := acc.1.filter (·.1 != space) ++ [(space, file, m.macros)]
          let found := collectSpaces set fuel m acc.2
          (inherit spaces ((found.lookup m.name).getD []), found)) (own, found)
      let parents := ((set.ancestors t).toOption.getD []).filterMap set.get?
      parents.foldl (fun found parent =>
        let found := collectSpaces set fuel parent found
        let mine := inherit ((found.lookup t.name).getD []) ((found.lookup parent.name).getD [])
        found.map fun x => if x.1 == t.name then (t.name, mine) else x) (found ++ [(t.name, spaces)])

def hasDefault : List Call → Bool
  | c :: _ => c.name == "default"
  | [] => false

def endsUnescaped (filters : List Call) : Bool :=
  match filters.getLast? with
  | some c => c.name == "safe"
  | none => false

def concatText : Operand → String
  | .string s => "'" ++ s ++ "'"
  | .int n => toString n
  | .float x => Decimal.plain.render x
  | .ident s => s
  | .call c => c.name ++ "()"
  | _ => ""

/-- A value as part of a joined string. -/
def joinable? : Json → Option String
  | .string s => some s
  | .number n => some n.text
  | _ => none

/-- The items that a loop runs over, with their keys. -/
def loopEntries (name : String) (hasKey : Bool) (v : Json) : Except Problem (List (String × Json)) :=
  match v with
  | .array items => if hasKey then .error (.loopNotObject name) else .ok (items.map fun v => ("", v))
  | .string s =>
    if hasKey then .error (.loopNotObject name)
    else .ok ((Text.clusters s.toList).map fun cs => ("", .string (String.ofList cs)))
  | .object fields => if hasKey then .ok fields else .error (.loopNeedsKey name)
  | _ => .error (.loopUnsupported name)

/-- The name of what a loop runs over, for messages; nothing else can be run over. -/
def containerName? : Operand → Option String
  | .ident s => some s
  | .call c => some c.name
  | .array _ => some "an array literal"
  | _ => none

/-- Whether `v` is a member of `container`. -/
def isMember (v container : Json) : Except Problem Bool :=
  match container with
  | .array items => .ok (items.contains v)
  | .string s =>
    match v with
    | .string pat => .ok (Text.hasText pat.toList s.toList)
    | _ => .error (.memberOfString v)
  | .object fields =>
    match v with
    | .string key => .ok (Json.lookup key fields).isSome
    | _ => .error (.memberOfObject v)
  | _ => .error .memberOfOther

namespace Env

open Eval

variable {W : Type}

/-- The value of a variable, or why there is none. -/
def found (env : Env W) (name : String) : Eval W (Except Problem Json) := do
  return lookupIdent env.context (← get).frames name

def ident (env : Env W) (name : String) : Eval W Json := do
  ofExcept (← env.found name)

def runFilter (env : Env W) (name : String) (v : Json) (args : Args) : Eval W Json :=
  match env.registry.filter? name with
  | some f => within s!"Filter call '{name}' failed" (f v args)
  | none => problem (.unknownFilter name)

def runFunction (env : Env W) (name : String) (args : Args) : Eval W Json :=
  match env.registry.function? name with
  | some f => within s!"Function call '{name}' failed" (f args)
  | none => problem (.unknownFunction name)

/-- The template in whose view macros are looked up. -/
def macroView (env : Env W) : Eval W String := do
  match (← get).blocks with
  | (_, template, _) :: _ => return template
  | [] =>
    match env.ancestors.getLast? with
    | some rootTemplate => return rootTemplate.name
    | none => activeTemplate

def findMacro (env : Env W) (space name : String) : Eval W (String × MacroDef × List Node) := do
  let view ← env.macroView
  match ((← get).spaces.lookup view).bind (·.lookup space) with
  | none => problem (.unknownSpace space view)
  | some (file, macros) =>
    match macros.lookup name with
    | none => problem (.unknownMacro space name view)
    | some (m, body) => return (file, m, body)

/-- The body of a block: the nearest definition from `level` on, or the body that stands in place. -/
def blockBody (env : Env W) (name : String) (body : List Node) (active : Option Template) :
    Option (String × Nat) × List Node :=
  let own := match active with
    | some t => (t :: ((env.set.ancestors t).toOption.getD []).filterMap env.set.get?)
    | none => []
  match own.zipIdx.findSome? fun (t, level) => (t.blocks.lookup name).map fun b => (t.name, level, b) with
  | some (template, level, b) => (some (template, level), b)
  | none => (none, body)

/-- The next definition of a block above `level`. -/
def parentBlock? (env : Env W) (name : String) (level : Nat) : Option (String × Nat × List Node) :=
  (env.ancestors.zipIdx.drop level).findSome? fun (t, i) =>
    (t.blocks.lookup name).map fun b => (t.name, i + 1, b)

mutual

def args (env : Env W) : Nat → List (String × Expr) → Eval W Args
  | 0, _ => problem .tooDeep
  | n + 1, named => named.mapM fun (name, e) => do return (name, (← plainly (env.expr n e)))

/-- The call of a function; the words around a fault also cover its arguments. -/
def call (env : Env W) : Nat → Call → Eval W Json
  | 0, _ => problem .tooDeep
  | n + 1, c => do
    if !env.hasFunction c.name then problem (.unknownFunction c.name)
    let values ← within s!"Function call '{c.name}' failed" (env.args n c.args)
    env.runFunction c.name values

def filtered (env : Env W) : Nat → Json → Call → Eval W Json
  | 0, _, _ => problem .tooDeep
  | n + 1, v, c => do
    if !env.hasFilter c.name then problem (.unknownFilter c.name)
    let values ← within s!"Filter call '{c.name}' failed" (env.args n c.args)
    env.runFilter c.name v values

def test (env : Env W) : Nat → String → Bool → String → List Expr → Eval W Bool
  | 0, _, _, _, _ => problem .tooDeep
  | n + 1, name, negated, testName, args => do
    match Test.named? testName with
    | none => problem (.unknownTest testName)
    | some t =>
      let wrap := s!"Test call '{testName}' failed"
      let values ← args.mapM fun e => within wrap (plainly (env.expr n e))
      match t (← env.found name).toOption values with
      | .ok b => return b != negated
      | .error e => within wrap (problem (.call e))

def member (env : Env W) : Nat → Expr → Expr → Bool → Eval W Bool
  | 0, _, _, _ => problem .tooDeep
  | n + 1, left, right, negated => do
    let v ← env.expr n left
    let container ← env.expr n right
    let b ← ofExcept (isMember v container)
    return b != negated

def concatPart (env : Env W) : Nat → Operand → Eval W String
  | 0, _ => problem .tooDeep
  | n + 1, part => do
    match part with
    | .string s => return s
    | .int i => return toString i
    | .float x => return Decimal.plain.render x
    | .ident name =>
      match joinable? (← env.ident name) with
      | some s => return s
      | none => problem (.concatIdent name)
    | .call c =>
      match joinable? (← env.call n c) with
      | some s => return s
      | none => problem (.concatCall c.name)
    | _ => return ""

/-- The value given to `default`. -/
def defaultValue (env : Env W) : Nat → List Call → Eval W Json
  | 0, _ => problem .tooDeep
  | n + 1, filters =>
    match filters.head?.bind fun c => c.args.lookup "value" with
    | some e => env.expr n e
    | none => problem .defaultNeedsValue

/-- The value of an operand before filters, whether it may need escaping, and whether it is final
because a missing variable was negated. -/
def operand (env : Env W) : Nat → Operand → Bool → List Call → Eval W (Json × Bool × Bool)
  | 0, _, _, _ => problem .tooDeep
  | n + 1, v, negated, filters => do
    match v with
    | .array items => return (.array (← items.mapM (env.expr n)), false, false)
    | .member l r neg => return (.bool (← env.member n l r neg), false, false)
    | .string s => return (.string s, true, false)
    | .concat parts =>
      let texts ← parts.mapM (env.concatPart n)
      let called := parts.any fun p => match p with
        | .call _ => true
        | _ => false
      return (.string (String.join texts), called, false)
    | .int i => return (.number (.int i), false, false)
    | .float x => return (.number (.float x), false, false)
    | .bool b => return (.bool b, false, false)
    | .ident name =>
      let escapes := name != contextName
      match ← env.found name with
      | .ok .null =>
        if hasDefault filters then return (← env.defaultValue n filters, escapes, false)
        else return (.null, escapes, false)
      | .ok v => return (v, escapes, false)
      | .error p =>
        if hasDefault filters then return (← env.defaultValue n filters, escapes, false)
        else if negated then return (.bool true, false, true)
        else problem p
    | .call c => return (← env.call n c, true, false)
    | .macroCall space name args => return (.string (← env.expand n space name args), false, false)
    | .test ident neg name args => return (.bool (← env.test n ident neg name args), false, false)
    | .logic _ _ _ => return (.bool (← env.truth n (.mk v negated filters)), false, false)
    | .math _ _ _ =>
      match ← flattened (env.number n v) with
      | some x => return (.number x, false, false)
      | none => return (.string "NaN", false, false)

def expr (env : Env W) : Nat → Expr → Eval W Json
  | 0, _ => problem .tooDeep
  | n + 1, .mk v negated filters => do
    let (first, escapes, final) ← env.operand n v negated filters
    if final then return first
    let (r, escapes) ← piped (env.filtered n) (first, escapes) filters
    if negated then return .bool (!isTruthy r)
    match r with
    | .string s =>
      if (← get).escapes && escapes && !endsUnescaped filters then return .string (escapeHtml s)
      else return r
    | r => return r

/-- An expression as a number; nothing stands for what is not a number. -/
def exprNumber (env : Env W) : Nat → Expr → Eval W (Option Number)
  | 0, _ => problem .tooDeep
  | n + 1, e =>
    if e.filters.isEmpty then env.number n e.value
    else do
      match ← env.expr n e with
      | .number x => return some x
      | _ => problem .mathFiltered

def number (env : Env W) : Nat → Operand → Eval W (Option Number)
  | 0, _ => problem .tooDeep
  | n + 1, v => do
    match v with
    | .ident name =>
      match ← env.ident name with
      | .number x => return some x
      | _ => problem (.mathVariable name)
    | .int i => return some (.int i)
    | .float x => return some (.float x)
    | .math l op r =>
      let a ← env.exprNumber n l
      let b ← env.exprNumber n r
      match a, b with
      | some a, some b => ofExcept (calculate l r op a b)
      | _, _ => return none
    | .call c =>
      match ← env.call n c with
      | .number x => return some x
      | _ => problem (.mathFunction c.name)
    | .string s => problem (.mathString s)
    | .bool b => problem (.mathBool b)
    | .concat parts => problem (.mathConcat (String.intercalate " ~ " (parts.map concatText)))
    | .test _ _ name _ => problem (.mathTest name)
    | .macroCall _ _ _ => problem (.mathOther "a macro")
    | .array _ => problem (.mathOther "a list")
    | .logic _ _ _ | .member _ _ _ => problem (.mathOther "a condition")

/-- Whether an expression holds. A variable that cannot be evaluated does not hold. -/
def truth (env : Env W) : Nat → Expr → Eval W Bool
  | 0, _ => problem .tooDeep
  | n + 1, .mk v negated filters => do
    let flip := fun b : Bool => b != negated
    match v with
    | .logic l op r =>
      match op with
      | .or => if ← env.truth n l then return flip true else return flip (← env.truth n r)
      | .and => if ← env.truth n l then return flip (← env.truth n r) else return flip false
      | .gt | .gte | .lt | .lte =>
        let a ← env.exprNumber n l
        let b ← env.exprNumber n r
        match a, b with
        | some a, some b => return flip (compare op a.toFloat b.toFloat)
        | _, _ => problem .notANumberComparison
      | .eq | .notEq =>
        let a ← env.expr n l
        let b ← env.expr n r
        match a, b with
        | .number _, .number _ => return flip (equality (op == .notEq) a b)
        | .number _, _ | _, .number _ => return false
        | _, _ => return flip (equality (op == .notEq) a b)
    | .ident _ =>
      let r ← attempt (env.expr n (.mk v negated filters))
      -- the expression is negated once on its own, then once more
      return flip (flip ((r.map isTruthy).getD false))
    | .math _ _ _ | .int _ | .float _ =>
      match ← env.number n v with
      | some x => return flip (x.toFloat != 0.0)
      | none => return flip false
    | .member l r neg => return flip (← env.member n l r neg)
    | .test ident neg name args => return flip (← env.test n ident neg name args)
    | .bool b => return flip b
    | .string s => return flip (!s.isEmpty)
    | .call c =>
      match ← env.call n c with
      | .bool b => return flip b
      | _ => problem (.logicFunction c.name)
    | .concat _ =>
      match ← env.expr n (.mk v negated filters) with
      | .string s => return flip (!s.isEmpty)
      | _ => return flip false
    | .macroCall space name args => return flip (!(← env.expand n space name args).isEmpty)
    | .array items => return flip (!items.isEmpty)

/-- The text of a macro. -/
def expand (env : Env W) : Nat → String → String → List (String × Expr) → Eval W String
  | 0, _, _, _ => problem .tooDeep
  | n + 1, space, name, args => do
    let (file, m, body) ← env.findMacro space name
    let locals ← m.params.mapM fun (param, otherwise) => do
      match args.lookup param, otherwise with
      | some e, _ => return (param, (← plainly (env.expr n e)))
      | none, some v => return (param, (← plainly (env.expr n (.ofOperand v))))
      | none, none => problem (.missingArgument name param)
    pushFrame ⟨.expansion space name, file, locals, none⟩
    let s ← captured (env.body n body)
    popFrame
    return s

def body (env : Env W) : Nat → List Node → Eval W Unit
  | 0, _ => problem .tooDeep
  | n + 1, nodes => inOrder (env.node n) nodes

def loop (env : Env W) : Nat → Option String → String → Expr → List Node → List Node → Eval W Unit
  | 0, _, _, _, _, _ => problem .tooDeep
  | n + 1, key, item, container, nodes, otherwise => do
    match containerName? container.value with
    | none => problem (.loopContainer container.value)
    | some name =>
      let v ← plainly (env.expr n container)
      let entries ← ofExcept (loopEntries name key.isSome v)
      if entries.isEmpty then env.body n otherwise
      else do
        let active ← activeTemplate
        pushFrame ⟨.loop, active, [], some ⟨key, item, entries, 0, .running⟩⟩
        rounds (env.body n nodes) entries.length
        popFrame

def branches (env : Env W) : Nat → List Branch → List Node → Eval W Unit
  | 0, _, _ => problem .tooDeep
  | n + 1, [], otherwise => env.body n otherwise
  | n + 1, .mk _ e nodes :: rest, otherwise => do
    if ← env.truth n e then env.body n nodes else env.branches n rest otherwise

/-- A block, by its nearest definition. It stays entered when it is done. -/
def block (env : Env W) : Nat → String → List Node → Eval W Unit
  | 0, _, _ => problem .tooDeep
  | n + 1, name, nodes => do
    let active := env.set.get? (← activeTemplate)
    let (found, nodes) := env.blockBody name nodes active
    match found with
    | some (template, level) => modify fun st => { st with blocks := (name, template, level) :: st.blocks }
    | none => pure ()
    env.body n nodes

/-- The block above the one being rendered. -/
def parentBlock (env : Env W) : Nat → Eval W Unit
  | 0 => problem .tooDeep
  | n + 1 => do
    match (← get).blocks with
    | [] => problem .noParentBlock
    | (name, _, level) :: _ =>
      match env.parentBlock? name level with
      | none => problem .noParentBlock
      | some (template, next, nodes) =>
        modify fun st => { st with blocks := (name, template, next) :: st.blocks }
        env.body n nodes
        let last := env.ancestors.length ≤ next
        modify fun st => { st with blocks := st.blocks.drop (if last then 2 else 1) }

def embed (env : Env W) : Nat → List String → Bool → Eval W Unit
  | 0, _, _ => problem .tooDeep
  | n + 1, names, optional => do
    match names.findSome? env.set.get? with
    | some t =>
      modify fun st => { st with spaces := collectSpaces env.set (env.set.templates.length + 1) t st.spaces }
      pushFrame ⟨.embedded, t.name, [], none⟩
      env.body n t.nodes
      popFrame
    | none =>
      if optional then return ()
      else problem (.unknownTemplate ("[" ++ String.intercalate ", " names ++ "]"))

def node (env : Env W) : Nat → Node → Eval W Unit
  | 0, _ => problem .tooDeep
  | n + 1, nd => do
    match nd with
    | .comment _ | .load _ _ _ | .definition _ _ _ _ => return ()
    | .text s | .raw _ s _ => emit s
    | .print _ e => emit (display (← env.expr n e))
    | .set _ key value global => assign key global (← plainly (env.expr n value))
    | .filter _ f nodes _ =>
      let s ← captured (env.body n nodes)
      if f.name == "safe" then emit s else emit (display (← env.filtered n (.string s) f))
    | .cond bs _ otherwise _ => env.branches n bs otherwise
    | .loop _ key item container nodes otherwise _ => env.loop n key item container nodes otherwise
    | .leave _ => setLoopState .leaving .leaveOutsideLoop
    | .next _ => setLoopState .skipping .nextOutsideLoop
    | .block _ name nodes _ => env.block n name nodes
    | .parent => env.parentBlock n
    | .embed _ names optional => env.embed n names optional
    | .extend _ name => problem (.inheritanceInside name)

end

/-- Where a fault arose, in words. -/
def location (env : Env W) (st : State W) : String :=
  let expansion := match st.frames.head?.map (·.kind) with
    | some (.expansion space name) => s!": error while rendering macro `{space}::{name}`"
    | _ => ""
  let inherited := match st.blocks with
    | (name, _, level) :: _ =>
      if (env.target.blocks.lookup name).isNone then " (error happened in a parent template)"
      else
        let holders := (env.target :: env.ancestors).filter fun t => (t.blocks.lookup name).isSome
        match holders[level]? with
        | none => " (error happened in a parent template)"
        | some t => if t.name == env.target.name then "" else s!" (error happened in '{t.name}')."
    | [] =>
      match env.ancestors.getLast? with
      | some t => s!" (error happened in '{t.name}')."
      | none => ""
  s!"Failed to render '{env.target.name}'" ++ expansion ++ inherited

end Env

def escapedEndings : List String := [".html", ".htm", ".xml"]

/-- How deeply templates, macros and expressions may be nested. -/
def maxDepth : Nat := 10000

/-- What comes of rendering a template: the text, up to the fault if there is one, what has become of
commands that failed, and the world afterwards. -/
structure Rendering (W : Type) where
  text : String
  fault : Option Fault
  ledger : Ledger
  world : W

def Rendering.of {W : Type} (env : Env W) : Except Fault Unit × State W × Ledger → Rendering W
  | (.ok _, st, ledger) => ⟨String.join st.written.reverse, none, ledger, st.world⟩
  | (.error f, st, ledger) => ⟨String.join st.written.reverse, some (f.within (env.location st)), ledger, st.world⟩

/-- Renders a template of a complete set with what is registered. -/
def Set.renderWith {W : Type} (set : Set) (registry : Registry W) (context : List (String × Json)) (t : Template)
    (world : W) : Rendering W :=
  let ancestors := ((set.ancestors t).toOption.getD []).filterMap set.get?
  let env : Env W := ⟨set, registry, context, t, ancestors⟩
  let root := ancestors.getLast?.getD t
  let st : State W :=
    { frames := [⟨.origin, t.name, [], none⟩]
      blocks := []
      spaces := collectSpaces set (set.templates.length + 1) t []
      escapes := escapedEndings.any fun e => Test.endsWith t.name e
      written := []
      world := world }
  .of env ((env.body maxDepth root.nodes).run st ⟨[], []⟩)

/-- Renders a template of a complete set; the commands are registered after everything else. -/
def Set.render {W : Type} (set : Set) (commands : Commands W) (context : List (String × Json)) (t : Template)
    (world : W) : Rendering W :=
  set.renderWith (Registry.library.register commands) context t world

end ApiStencil.Template
