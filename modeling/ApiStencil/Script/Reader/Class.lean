import ApiStencil.Script.Reader.Function
/-!
Classes. Hidden names are in view in the whole class, also before the member that declares them.
-/
set_option autoImplicit false

namespace ApiStencil.Script.Reader

def classKey (g : Grammar) : Reader ClassKey := do
  match ← token with
  | .hidden name =>
    guard (name != "constructor")
    advance
    return .hidden (txt name)
  | _ => return .shown (← fieldKey g)

/-- The word is a modifier here, not a name of its own. -/
def modifier (name : String) : Reader Bool := do
  if !(← isWord name) then return false
  let alone ← ahead do
    advance
    match ← token with
    | .sign s => return s == "(" || s == "=" || s == ";" || s == "\x7d"
    | .done => return true
    | _ => return false
  if alone == some true then return false
  advance
  return true

/-- The modifier `async`, which has to stand on the line of what follows. -/
def asyncModifier : Reader Bool := do
  let same ← ahead do
    advance
    return !(← newline)
  if same == some true then modifier "async" else return false

def keyName : ClassKey → FieldKey
  | .shown key => key
  | .hidden name => .fixed (txt "#" ++ name)

/-- The initial value of a field, as a method without parameters. -/
def fieldInit (g : Grammar) (key : ClassKey) : Reader (Option Code) := do
  if !(← eatSign "=") then return none
  let start ← here
  meetFunction
  let h : Header := ⟨.method, false, false⟩
  let (e, _) ← binds (within h.site (g.assignment true))
  let name := match keyName key with
    | .fixed k => k
    | .computed _ => #[]
  let source ← textSince start
  return some ⟨#[], .method, false, false, false, [], none, ⟨[], .ofStmts [.give (some (named name e))]⟩, source⟩

def staticBlock (items : Reader (List Item)) : Reader ClassElement := do
  let start ← here
  sign "\x7b"
  meetFunction
  let h : Header := ⟨.method, false, false⟩
  let (b, _) ← binds (within (fun s => { h.site s with returns := false }) (body [] items))
  let source ← textSince start
  return .initial ⟨#[], .method, false, false, false, [], none, b, source⟩

def isConstructor (isStatic : Bool) (key : ClassKey) : Bool :=
  !isStatic && match key with
    | .shown (.fixed k) => k == txt "constructor"
    | _ => false

/-- A member of a class, or its constructor. -/
def classElement (g : Grammar) (items : Reader (List Item)) (derived : Bool) :
    Reader (ClassElement ⊕ Code) := do
  let isStatic ← modifier "static"
  if isStatic then
    if ← isSign "\x7b" then return .inl (← staticBlock items)
  let start ← here
  if ← modifier "get" then
    let key ← classKey g
    guard (!isConstructor isStatic key)
    return .inl (.getter isStatic key (← accessor g items 0 (keyName key) start))
  if ← modifier "set" then
    let key ← classKey g
    guard (!isConstructor isStatic key)
    return .inl (.setter isStatic key (← accessor g items 1 (keyName key) start))
  let isAsync ← asyncModifier
  let isGenerator ← eatSign "*"
  let key ← classKey g
  if ← isSign "(" then
    if isConstructor isStatic key then
      guard (!isAsync && !isGenerator)
      let kind := if derived then CodeKind.derived else .base
      return .inr (← functionRest g items ⟨kind, false, false⟩ #[] start)
    return .inl (.method isStatic key (← method g items isAsync isGenerator (keyName key) start))
  guard (!isAsync && !isGenerator && !isConstructor isStatic key)
  let init ← fieldInit g key
  semicolon
  return .inl (.field isStatic key init)

def classElements (g : Grammar) (items : Reader (List Item)) (derived : Bool) :
    Nat → Reader (List (ClassElement ⊕ Code))
  | 0 => failure
  | n + 1 => do
    if ← eatSign "\x7d" then return []
    if ← eatSign ";" then classElements g items derived n
    else
      let e ← classElement g items derived
      return e :: (← classElements g items derived n)

/-- The hidden names that the members declare. A getter and a setter may share one. -/
def hiddenNames (es : List ClassElement) : List (Units × String) :=
  es.filterMap fun e => match e with
    | .method _ (.hidden n) _ => some (n, "")
    | .getter _ (.hidden n) _ => some (n, "get")
    | .setter _ (.hidden n) _ => some (n, "set")
    | .field _ (.hidden n) _ => some (n, "")
    | _ => none

def hiddenRepeats : List (Units × String) → Bool
  | [] => false
  | (n, kind) :: rest =>
    (rest.any fun (m, other) => m == n && (kind == other || kind.isEmpty || other.isEmpty)) || hiddenRepeats rest

/-- A class, from its keyword on; `heritage` reads what it extends. -/
def classRest (g : Grammar) (items : Reader (List Item)) (heritage : Reader Expr) (name : Option Units)
    (start : Nat) : Reader ClassCode := do
  meetFunction
  let before := (← get).wanted
  modify fun s => { s with wanted := [] }
  let parent ← if ← eatWord "extends" then (do return some (← heritage)) else pure none
  sign "\x7b"
  let fuel := (← get).src.size + 1
  let members ← classElements g items parent.isSome fuel
  let elements := members.filterMap fun m => match m with
    | .inl e => some e
    | .inr _ => none
  let makers := members.filterMap fun m => match m with
    | .inl _ => none
    | .inr c => some c
  guard (makers.length ≤ 1)
  let declared := hiddenNames elements
  guard (!hiddenRepeats declared)
  modify fun s =>
    { s with wanted := before ++ s.wanted.filter fun n => !declared.any fun d => d.1 == n }
  return ⟨name, name.getD #[], parent, makers.head?, elements, (← textSince start)⟩

end ApiStencil.Script.Reader
