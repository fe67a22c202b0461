import ApiStencil.Script.Closure
import ApiStencil.Script.Search
/-!
The values of expressions. What an expression refers to is found first, so that an assignment and a
read of the same place follow one rule.
-/
set_option autoImplicit false

namespace ApiStencil.Script

/-- A place that a value can be put into. -/
inductive Place where
  | name (name : Units)
  | member (object key : Value)
  | hidden (object : Value) (symbol : Nat)
  | parent (key : Value)

namespace M

def ofLiteral : Literal → Value
  | .null => .null
  | .bool b => .bool b
  | .number x => .number x
  | .bigint n => .bigint n
  | .text u => .text u

def readPlace (env : Env) : Place → M Value
  | .name name => readName env name
  | .member o k => getIndex o k
  | .hidden o symbol => getHidden o symbol
  | .parent k => do
    let this ← thisOf env
    match ← parentOf env with
    | .object p => getFrom p (← toKey k) this
    | v => getIndex v k

def writePlace (env : Env) (p : Place) (v : Value) : M Unit := do
  match p with
  | .name name => writeName env name v
  | .member o k => putIndex o k v
  | .hidden o symbol => setHidden o symbol v
  | .parent k =>
    let this ← thisOf env
    match ← parentOf env with
    | .object p =>
      let k ← toKey k
      settle k (← setFrom p k v this)
    | v => putIndex v k v

/-- The place with its key made ready, so that it is not asked for its text twice. -/
def settledPlace (p : Place) : M Place := do
  match p with
  | .member o (.object k) =>
    if o.isNullish then return p else return .member o (← toKey (.object k)).toValue
  | p => return p

/-- The value, or nothing where a link in `x` finds nothing. -/
def chained (x : M Value) : M Value :=
  tryCatch x fun e =>
    match e with
    | .skipped => pure .undefined
    | e => throw e

def linked (v : Value) : M Value := if v.isNullish then throw .skipped else pure v

/-- Removes a member, or fails. -/
def deleteMember (o k : Value) : M Unit := do
  let r ← toObject o
  if !(← deleteKey r (← toKey k)) then typeError "could not delete property"

/-- The object that holds the fixed parts of a tagged template; it is the same each time. -/
def templateObject (parts : TemplateParts) : M Value := do
  match (← look).templates.lookup parts.site with
  | some r => return .object r
  | none =>
    let read := parts.read.map fun u => u.elim Value.undefined Value.text
    let raw ← newPlain (.proto .array) (.array (parts.written.map Value.text).toArray)
    let whole ← newPlain (.proto .array) (.array read.toArray)
    addSlot whole (.ofString "raw") (.data (.object raw) false false false)
    for r in [raw, whole] do
      for k in ← plainKeys r do
        let _ ← plainDefine r k { Draft.empty with writable := some false, configurable := some false }
      let _ ← preventExtensions r
    alter (fun s => { s with templates := (parts.site, whole) :: s.templates }) fun _ => .of_same rfl rfl rfl
    return .object whole

/-- Copies the enumerable properties of a value, but those under certain keys. -/
def copyShown (target : Nat) (source : Value) (but : List Key) : M Unit := do
  if source.isNullish then return ()
  let r ← toObject source
  for k in ← ownKeys r do
    if !but.contains k then
      match ← ownSlot? r k with
      | some s => if s.enumerable then create target k (← getFrom r k source)
      | none => pure ()

/-- A function that takes its name from a key. -/
def newMethod (code : Code) (k : Key) (mark : String) (env : Env) (home : Nat) : M Value := do
  let name := txt mark ++ (← nameOfKey k)
  return .object (← newClosureNamed code name env (some home))

/-- The constructor of a class that declares none. -/
def defaultMaker (derived : Bool) : Code :=
  if derived then
    ⟨#[], .derived, false, false, false, [], some (.name (txt "args")),
      ⟨[], .ofStmts [.expr (.parentCall [.spread (.ident (txt "args"))])]⟩, #[]⟩
  else ⟨#[], .base, false, false, false, [], none, ⟨[], .ofStmts []⟩, #[]⟩

/-- What a class extends: what its instances inherit from, and what the class itself inherits from. -/
def heritageOf : Option Value → M (Option Nat × Nat)
  | none => return (some (Intrinsic.proto .object).ref, (Intrinsic.proto .function).ref)
  | some .null => return (none, (Intrinsic.proto .function).ref)
  | some v => do
    if !(← isConstructor v) then typeError "parent class must be a constructor"
    match v, ← getNamed v "prototype" with
    | .object r, .object p => return (some p, r)
    | .object r, .null => return (none, r)
    | _, _ => typeError "parent prototype must be an object or null"

def hiddenOfElement : ClassElement → Option Units
  | .method _ (.hidden n) _ | .getter _ (.hidden n) _ | .setter _ (.hidden n) _ | .field _ (.hidden n) _ => some n
  | _ => none

/-- A scope with the name of a class and its hidden names. -/
def classScope (code : ClassCode) : M Scope := do
  let hidden := (code.elements.filterMap hiddenOfElement).eraseDups
  let symbols ← hidden.mapM fun n => do
    let name := txt "#" ++ n
    return Binding.mk name (some (.symbol (← newSymbol (some name) true))) false
  return ((code.name.toList.map fun n => Binding.mk n none false) ++ symbols).toArray

/-- What a class does when all its members are there. -/
inductive ClassStep where
  | field (key : Key) (init : Option Nat)
  | run (f : Nat)

/-- The members of a class as they have been found so far. -/
structure ClassParts where
  proto : Nat
  maker : Nat
  members : List Member
  steps : List ClassStep

def concealedAccessor (getter setter : Option Value) : Draft :=
  { Draft.empty with getter, setter, enumerable := some false, configurable := some true }

def shownAccessor (getter setter : Option Value) : Draft :=
  { Draft.empty with getter, setter, enumerable := some true, configurable := some true }

/-- Adds a method or an accessor; `mark` tells which. -/
def addClassMethod (parts : ClassParts) (env : Env) (isStatic : Bool) (k : Key) (hidden : Bool) (mark : String)
    (code : Code) : M ClassParts := do
  let home := if isStatic then parts.maker else parts.proto
  let f ← newMethod code k (if mark.isEmpty then "" else mark ++ " ") env home
  if hidden then
    let slot := match mark with
      | "get" => Slot.accessor f .undefined false false
      | "set" => .accessor .undefined f false false
      | _ => .data f false false false
    match k with
    | .symbol n =>
      if isStatic then
        addHidden parts.maker n slot
        return parts
      else return { parts with members := parts.members ++ [.hidden n slot] }
    | .name _ => return parts
  else
    let draft := match mark with
      | "get" => concealedAccessor (some f) none
      | "set" => concealedAccessor none (some f)
      | _ => Draft.concealed f
    defineOrFail home k draft
    return parts

def tooDeep {α : Type} : M α := rangeError "Maximum call stack size exceeded"

mutual

/-- The value of an expression that is nested at most `n` deep. -/
def eval : Nat → Env → Expr → M Value
  | 0, _, _ => tooDeep
  | n + 1, env, e => do
    match e with
    | .literal v => return ofLiteral v
    | .ident name => readName env name
    | .this => thisOf env
    | .newTarget => return ((← context? env).map (·.newTarget)).getD .undefined
    | .regex body flags => newRegex body flags
    | .template parts holes => evalTemplate n env parts holes #[]
    | .tagged tag parts holes =>
      let (f, this) ← evalCallee n env tag
      let first ← templateObject parts
      let rest ← holes.mapM fun h => eval n env h
      callOrFail f this (first :: rest)
    | .array items =>
      let r ← newPlain (.proto .array) (.array (← evalItems n env items #[]))
      for (item, i) in items.zipIdx do
        match item with
        | .hole =>
          if items.all (fun x => match x with | .spread _ => false | _ => true) then
            let _ ← plainDelete r (.ofIndex i)
        | _ => pure ()
      return .object r
    | .object fields =>
      let r ← newPlain (.proto .object) .plain
      for f in fields do
        evalField n env r f
      return .object r
    | .function code => newClosure code env none
    | .classOf code => evalClass n env code
    | .unary op e =>
      match op, e with
      | .kindOf, .ident name => unary .kindOf (← readNameOrNothing env name)
      | _, _ => unary op (← eval n env e)
    | .delete e => evalDelete n env e
    | .step up first target =>
      let p ← settledPlace (← evalPlace n env target)
      let (old, new) ← stepped up (← readPlace env p)
      writePlace env p new
      return if first then new else old
    | .binary op a b =>
      let x ← eval n env a
      let y ← eval n env b
      binary op x y
    | .logic op a b =>
      let x ← eval n env a
      let goesOn := match op with
        | .and => truthy x
        | .or => !truthy x
        | .nullish => x.isNullish
      if goesOn then eval n env b else return x
    | .cond test yes no =>
      if truthy (← eval n env test) then eval n env yes else eval n env no
    | .assign target value =>
      let p ← evalPlace n env target
      let v ← eval n env value
      writePlace env p v
      return v
    | .assignOp op target value =>
      let p ← settledPlace (← evalPlace n env target)
      let old ← readPlace env p
      let v ← binary op old (← eval n env value)
      writePlace env p v
      return v
    | .assignLogic op target value =>
      let p ← settledPlace (← evalPlace n env target)
      let old ← readPlace env p
      let goesOn := match op with
        | .and => truthy old
        | .or => !truthy old
        | .nullish => old.isNullish
      if goesOn then
        let v ← eval n env value
        writePlace env p v
        return v
      else return old
    | .assignPattern target value =>
      let v ← eval n env value
      bind n env false target v
      return v
    | .dot o name => do
      let v ← eval n env o
      match v with
      | .object r => getFrom r (.name name) v
      | v => getMember v (.name name)
    | .index o k =>
      let v ← eval n env o
      getIndex v (← eval n env k)
    | .hidden o name =>
      let v ← eval n env o
      getHidden v (← hiddenSymbol env name)
    | .hasHidden name o =>
      let symbol ← hiddenSymbol env name
      let v ← eval n env o
      if !v.isObject then typeError "invalid 'in' operand"
      return .bool (← hiddenSlot? v symbol).isSome
    | .parent k =>
      let k ← eval n env k
      readPlace env (.parent k)
    | .call callee args => evalCall n env callee args
    | .parentCall args => evalParentCall n env args
    | .new callee args =>
      let f ← eval n env callee
      let args ← evalItems n env args #[]
      needConstructor f
      construct f args.toList f
    | .chain e => chained (eval n env e)
    | .link e => linked (← eval n env e)
    | .sequence a b =>
      let _ ← eval n env a
      eval n env b
    | .yield _ | .yieldFrom _ => fail .syntaxKind "unexpected 'yield'"
    | .await e =>
      let _ ← eval n env e
      throw .waiting

def evalTemplate : Nat → Env → List Units → List Expr → Units → M Value
  | 0, _, _, _, _ => tooDeep
  | n + 1, env, part :: parts, hole :: holes, acc => do
    let v ← eval n env hole
    let u ← toText v
    evalTemplate n env parts holes (acc ++ part ++ u)
  | _ + 1, _, parts, _, acc => return .text (parts.foldl (· ++ ·) acc)

/-- Values in a row; a gap counts as `undefined`. -/
def evalItems : Nat → Env → List Element → Array Value → M (Array Value)
  | 0, _, _, _ => tooDeep
  | _ + 1, _, [], acc => return acc
  | n + 1, env, item :: rest, acc => do
    match item with
    | .hole => evalItems n env rest (acc.push .undefined)
    | .one e =>
      let v ← eval n env e
      evalItems n env rest (acc.push v)
    | .spread e =>
      let it ← iterate (← eval n env e)
      evalItems n env rest (← collect it maxItems acc)

def evalKey : Nat → Env → FieldKey → M Key
  | 0, _, _ => tooDeep
  | n + 1, env, k => do
    match k with
    | .fixed name => return .name name
    | .computed e => toKey (← eval n env e)

def evalField : Nat → Env → Nat → Field → M Unit
  | 0, _, _, _ => tooDeep
  | n + 1, env, r, f => do
    match f with
    | .value key e =>
      let k ← evalKey n env key
      let v ← eval n env e
      create r k v
    | .method key code =>
      let k ← evalKey n env key
      create r k (← newMethod code k "" env r)
    | .getter key code =>
      let k ← evalKey n env key
      let g ← newMethod code k "get " env r
      defineOrFail r k (shownAccessor (some g) none)
    | .setter key code =>
      let k ← evalKey n env key
      let s ← newMethod code k "set " env r
      defineOrFail r k (shownAccessor none (some s))
    | .proto e =>
      match ← eval n env e with
      | .object p =>
        let _ ← setProto r (some p)
      | .null =>
        let _ ← setProto r none
      | _ => pure ()
    | .spread e => copyShown r (← eval n env e) []
    | .cover _ _ => fail .syntaxKind "unexpected default"

/-- The place that an expression stands for. -/
def evalPlace : Nat → Env → Expr → M Place
  | 0, _, _ => tooDeep
  | n + 1, env, e => do
    match e with
    | .ident name => return .name name
    | .dot o name => return .member (← eval n env o) (.text name)
    | .index o k =>
      let v ← eval n env o
      return .member v (← eval n env k)
    | .hidden o name =>
      let v ← eval n env o
      return .hidden v (← hiddenSymbol env name)
    | .parent k => return .parent (← eval n env k)
    | _ => fail .syntaxKind "invalid assignment left-hand side"

def evalDelete : Nat → Env → Expr → M Value
  | 0, _, _ => tooDeep
  | n + 1, env, e => do
    match e with
    | .dot o name =>
      deleteMember (← eval n env o) (.text name)
      return .bool true
    | .index o k =>
      let v ← eval n env o
      deleteMember v (← eval n env k)
      return .bool true
    | .chain e =>
      tryCatch (evalDelete n env e) fun a =>
        match a with
        | .skipped => pure (.bool true)
        | a => throw a
    | .parent _ => fail .reference "unsupported reference to 'super'"
    | e =>
      let _ ← eval n env e
      return .bool true

/-- What is called and the value that stands for `this` in it. -/
def evalCallee : Nat → Env → Expr → M (Value × Value)
  | 0, _, _ => tooDeep
  | n + 1, env, e => do
    match e with
    | .dot o name =>
      let v ← eval n env o
      return (← getMember v (.name name), v)
    | .index o k =>
      let v ← eval n env o
      return (← getIndex v (← eval n env k), v)
    | .hidden o name =>
      let v ← eval n env o
      return (← getHidden v (← hiddenSymbol env name), v)
    | .parent k =>
      let k ← eval n env k
      let f ← readPlace env (.parent k)
      return (f, ← thisOf env)
    | .chain e =>
      tryCatch (evalCallee n env e) fun a =>
        match a with
        | .skipped => pure (.undefined, .undefined)
        | a => throw a
    | .link e =>
      let (f, this) ← evalCallee n env e
      return (← linked f, this)
    | e => return (← eval n env e, .undefined)

def evalCall : Nat → Env → Expr → List Element → M Value
  | 0, _, _, _ => tooDeep
  | n + 1, env, callee, args => do
    let (f, this) ← evalCallee n env callee
    let args ← evalItems n env args #[]
    let inView ← match callee, f with
      | .ident name, .object r =>
        match ← kindOf r with
        | .native id _ => pure (id == Inner.evaluate.id && name == txt "eval")
        | _ => pure false
      | _, _ => pure false
    if inView then
      match args.getD 0 .undefined with
      | .text u => (← read).evaluate u (some env)
      | v => return v
    else callOrFail f this args.toList

/-- Runs the constructor of the parent class on the new instance. -/
def evalParentCall : Nat → Env → List Element → M Value
  | 0, _, _ => tooDeep
  | n + 1, env, args => do
    match ← functionOf env with
    | none => fail .syntaxKind "'super' is not in view"
    | some f =>
      let parent := protoValue (← proto? f)
      let args ← evalItems n env args #[]
      needConstructor parent
      let newTarget := ((← context? env).map (·.newTarget)).getD .undefined
      let v ← construct parent args.toList newTarget
      if ((← context? env).bind (·.this)).isSome then
        fail .reference "'super' can be called only once"
      modifyContext env.context fun c => { c with this := some v }
      match v with
      | .object r => addMembers (← membersOf f) r
      | _ => pure ()
      return v

def evalClassKey : Nat → Env → ClassKey → M (Key × Bool)
  | 0, _, _ => tooDeep
  | n + 1, env, k => do
    match k with
    | .shown key => return (← evalKey n env key, false)
    | .hidden name => return (.symbol (← hiddenSymbol env name), true)

def evalClassElement : Nat → Env → ClassParts → ClassElement → M ClassParts
  | 0, _, _, _ => tooDeep
  | n + 1, env, parts, e => do
    match e with
    | .method isStatic key code =>
      let (k, hidden) ← evalClassKey n env key
      addClassMethod parts env isStatic k hidden "" code
    | .getter isStatic key code =>
      let (k, hidden) ← evalClassKey n env key
      addClassMethod parts env isStatic k hidden "get" code
    | .setter isStatic key code =>
      let (k, hidden) ← evalClassKey n env key
      addClassMethod parts env isStatic k hidden "set" code
    | .field isStatic key init =>
      let (k, _) ← evalClassKey n env key
      let home := if isStatic then parts.maker else parts.proto
      let f ← match init with
        | some code => do
          let f ← newClosureNamed code code.name env (some home)
          pure (some f)
        | none => pure none
      if isStatic then return { parts with steps := parts.steps ++ [.field k f] }
      else return { parts with members := parts.members ++ [.field k f] }
    | .initial code =>
      let f ← newClosureNamed code #[] env (some parts.maker)
      return { parts with steps := parts.steps ++ [.run f] }

def evalClass : Nat → Env → ClassCode → M Value
  | 0, _, _ => tooDeep
  | n + 1, env, code => do
    let env ← Env.within env (← classScope code)
    let parent ← match code.heritage with
      | some e => do
        let v ← eval n env e
        pure (some v)
      | none => pure none
    let (protoParent, makerParent) ← heritageOf parent
    let proto ← newObject ⟨protoParent, true, .plain, #[]⟩
    let makerCode := { code.make.getD (defaultMaker parent.isSome) with source := code.source }
    let slots := (functionSlots makerCode.arity code.title).push
      (.ofString "prototype", .data (.object proto) false false false)
    let maker ← newObject ⟨some makerParent, true, .closure ⟨makerCode, env, some proto, []⟩, slots⟩
    addSlot proto (.ofString "constructor") (concealed (.object maker))
    let parts ← code.elements.foldlM (fun parts e => evalClassElement n env parts e) ⟨proto, maker, [], []⟩
    setKind maker (.closure ⟨makerCode, env, some proto, parts.members⟩)
    match code.name with
    | some name => startName env name (.object maker)
    | none => pure ()
    for step in parts.steps do
      match step with
      | .field k init => addMembers [.field k init] maker
      | .run f =>
        let _ ← call (.object f) (.object maker) []
    return .object maker

/-- Gives the names and places of a pattern their values. A declaration gives a name its first
value. -/
def bind : Nat → Env → Bool → Pattern → Value → M Unit
  | 0, _, _, _, _ => tooDeep
  | n + 1, env, declares, p, v => do
    match p with
    | .name name => if declares then startName env name v else writeName env name v
    | .place e =>
      let place ← evalPlace n env e
      writePlace env place v
    | .array items rest =>
      let it ← iterate v
      bindItems n env declares items rest it false
    | .object fields rest =>
      if v.isNullish then
        let _ ← toObject v
      bindFields n env declares fields rest v []

def bindItems : Nat → Env → Bool → List PatternItem → Option Pattern → Iter → Bool → M Unit
  | 0, _, _, _, _, _, _ => tooDeep
  | n + 1, env, declares, items, rest, it, done => do
    match items with
    | item :: items =>
      let next ← if done then pure none else nextOf it
      let finish := if next.isNone then fun (x : M Unit) => x else closingOnFailure it
      finish (bindItem n env declares item (next.getD .undefined))
      bindItems n env declares items rest it next.isNone
    | [] =>
      match rest with
      | some p =>
        let left ← if done then pure #[] else collect it maxItems #[]
        bind n env declares p (← newArray left)
      | none => if !done then closeIter it

def bindItem : Nat → Env → Bool → PatternItem → Value → M Unit
  | 0, _, _, _, _ => tooDeep
  | n + 1, env, declares, item, v => do
    match item.target with
    | none => return ()
    | some p =>
      match v, item.otherwise with
      | .undefined, some e => bind n env declares p (← eval n env e)
      | v, _ => bind n env declares p v

def bindFields : Nat → Env → Bool → List PatternField → Option Pattern → Value → List Key → M Unit
  | 0, _, _, _, _, _, _ => tooDeep
  | n + 1, env, declares, fields, rest, v, seen => do
    match fields with
    | f :: fields =>
      let k ← evalKey n env f.key
      let w ← getMember v k
      bindItem n env declares ⟨some f.target, f.otherwise⟩ w
      bindFields n env declares fields rest v (k :: seen)
    | [] =>
      match rest with
      | none => return ()
      | some p =>
        let r ← newPlain (.proto .object) .plain
        copyShown r v seen
        bind n env declares p (.object r)

end

/-- How deep expressions may be nested. -/
def depth : Nat := 100000

def value (env : Env) (e : Expr) : M Value := eval depth env e

end M
end ApiStencil.Script
