import ApiStencil.Script.Reader.Expr
/-!
Statements and declarations.
-/
set_option autoImplicit false

namespace ApiStencil.Script.Reader

/-- One variable with its value. `open_` allows it to have none where one is needed. -/
def declarator (g : Grammar) (binder : Binder) (allowIn open_ : Bool) : Reader (Pattern × Option Expr) := do
  let p ← g.pattern
  if ← eatSign "=" then return (p, some (namedFor p (← g.assignment allowIn)))
  match p with
  | .name _ => guard (open_ || binder != .fixed)
  | _ => guard open_
  return (p, none)

def declarators (g : Grammar) (binder : Binder) (allowIn open_ : Bool) :
    Nat → Reader (List (Pattern × Option Expr))
  | 0 => failure
  | n + 1 => do
    let d ← declarator g binder allowIn open_
    if ← eatSign "," then return d :: (← declarators g binder allowIn open_ n)
    return [d]

def binderAhead : Reader (Option Binder) := do
  if ← isWord "var" then return some .var
  if ← isWord "let" then return some .vary
  if ← isWord "const" then return some .fixed
  return none

/-- The declared names; those of `var` belong to the body. -/
def declareNames (binder : Binder) (names : List Units) : Reader (List (Units × Bool)) := do
  match binder with
  | .var =>
    modify fun s => { s with vars := s.vars ++ names }
    return []
  | .vary => return names.map (·, true)
  | .fixed => return names.map (·, false)

def declaration (g : Grammar) (binder : Binder) : Reader Item := do
  advance
  let fuel := (← get).src.size + 1
  let (ds, names) ← binds (declarators g binder true false fuel)
  semicolon
  let declared ← declareNames binder names
  guard (binder == .var || !names.contains (txt "let"))
  return .stmt (.declare binder ds) declared

/-- A statement of a list, or a function. -/
def item (g : Grammar) (items : Reader (List Item)) : Reader Item := do
  let start ← here
  let isAsync ← if ← isWord "async" then functionAhead else pure false
  if isAsync then advance
  if ← isWord "function" then
    advance
    let isGenerator ← eatSign "*"
    let (name, _) ← binds binding
    return .function (← functionRest g items ⟨.plain, isAsync, isGenerator⟩ name start)
  if ← eatWord "class" then
    let (name, _) ← binds binding
    let c ← classRest g items (leftHand g items true 64) (some name) start
    return .stmt (.classOf c) [(name, true)]
  match ← binderAhead with
  | some binder => declaration g binder
  | none => return .stmt (← g.stmt) []

/-- Statements up to a closing brace. -/
def itemsUpTo (g : Grammar) : Nat → Reader (List Item)
  | 0 => failure
  | n + 1 => allUpTo (eatSign "\x7d") (item g (itemsUpTo g n))

def blockStmt (items : Reader (List Item)) : Reader Block := do
  sign "\x7b"
  block items

def inLoop {α : Type} (r : Reader α) : Reader α :=
  within (fun s => { s with leaves := true, continues := true }) r

def overRest (g : Grammar) (head : LoopHead) : Reader Stmt := do
  if ← eatWord "of" then
    let source ← g.assignment true
    sign ")"
    return .overValues head source (← inLoop g.stmt)
  word "in"
  let source ← sequence g true
  sign ")"
  return .overKeys head source (← inLoop g.stmt)

/-- Test and update of a loop, and its body. -/
def loopRest (g : Grammar) (start : Option Stmt) (names : List (Units × Bool)) (met : Nat) : Reader Stmt := do
  sign ";"
  let test ← if ← isSign ";" then pure none else (do return some (← sequence g true))
  sign ";"
  let update ← if ← isSign ")" then pure none else (do return some (← sequence g true))
  sign ")"
  let body ← inLoop g.stmt
  -- rounds need copies of their own only where a function may keep them
  let kept := (← get).functions != met
  let fresh := if kept then names.filterMap fun x => if x.2 then some x.1 else none else []
  return .loop start names fresh test update body

def forStmt (g : Grammar) : Reader Stmt := do
  word "for"
  let met := (← get).functions
  let covers := (← get).covers
  if ← eatWord "await" then guard (← get).site.awaits
  sign "("
  let fuel := (← get).src.size + 1
  if ← isSign ";" then loopRest g none [] met
  else
    match ← binderAhead with
    | some binder =>
      advance
      let (ds, names) ← binds (declarators g binder false true fuel)
      let declared ← declareNames binder names
      guard (binder == .var || !repeats names)
      match ds, ((← isWord "of") || (← isWord "in")) with
      | [(p, none)], true => overRest g (.declare binder p)
      | _, _ =>
        guard (ds.all fun d => d.2.isSome || (binder != .fixed && match d.1 with
          | .name _ => true
          | _ => false))
        loopRest g (some (.declare binder ds)) declared met
    | none =>
      let e ← sequence g false
      if (← isWord "of") || (← isWord "in") then overRest g (.assign (← toTarget covers e))
      else loopRest g (some (.expr e)) [] met

def optionalLabel : Reader (Option Units) := do
  if ← newline then return none
  optional variable_

def leaveStmt : Reader Stmt := do
  word "break"
  let label ← optionalLabel
  let site := (← get).site
  match label with
  | none => guard site.leaves
  | some l => guard (site.labels.any (·.1 == l))
  semicolon
  return .leave label

def nextStmt : Reader Stmt := do
  word "continue"
  let label ← optionalLabel
  let site := (← get).site
  match label with
  | none => guard site.continues
  | some l => guard (site.labels.any fun x => x.1 == l && x.2)
  semicolon
  return .next label

/-- The cases of a selection, up to the closing brace. -/
def cases (g : Grammar) (items : Reader Item) : Nat → Bool → Reader (List (Option Expr × List Item))
  | 0, _ => failure
  | n + 1, hasDefault => do
    if ← eatSign "\x7d" then return []
    let isDefault ← eatWord "default"
    guard !(isDefault && hasDefault)
    let test ← if isDefault then pure none else (do
      word "case"
      return some (← sequence g true))
    sign ":"
    let ends : Reader Bool := do
      return (← isSign "\x7d") || (← isWord "case") || (← isWord "default")
    let stmts ← allUpTo ends items
    return (test, stmts) :: (← cases g items n (hasDefault || isDefault))

def selectStmt (g : Grammar) (items : Reader (List Item)) : Reader Stmt := do
  word "switch"
  let e ← parenthesised g
  sign "\x7b"
  let fuel := (← get).src.size + 1
  within (fun s => { s with leaves := true }) do
    let before := (← get).vars
    modify fun s => { s with vars := [] }
    let cs ← cases g (item g items) fuel false
    let vars := (← get).vars
    modify fun s => { s with vars := before ++ vars }
    let b := blockOf (cs.flatMap (·.2))
    let names := b.names.map (·.1) ++ b.functions.map (·.name)
    guard (!repeats names && !names.any vars.contains)
    return .select e { b with stmts := [] } (cs.map fun c => (c.1, c.2.filterMap Item.stmt?))

/-- A handler with what it binds, and a last block. -/
def attempt (g : Grammar) (items : Reader (List Item)) : Reader Stmt := do
  word "try"
  let body ← blockStmt items
  let handler ← if ← eatWord "catch" then (do
      let (p, names) ← binds do
        if ← eatSign "(" then
          let p ← g.pattern
          sign ")"
          return some p
        else return none
      let b ← blockStmt items
      guard (!repeats names && !b.names.any fun n => names.contains n.1)
      return some (p, b)) else pure none
  let last ← if ← eatWord "finally" then (do return some (← blockStmt items)) else pure none
  guard (handler.isSome || last.isSome)
  return .attempt body handler last

/-- The labels that stand before a statement, and the statement. -/
def labeled (g : Grammar) (n : Units) : Reader Stmt := do
  guard !((← get).site.labels.any (·.1 == n))
  let isLoop := (← ahead (loopAhead 64)).isSome
  let s ← within (fun s => { s with labels := (n, isLoop) :: s.labels }) g.stmt
  return .labeled n s
where
  loopAhead : Nat → Reader Unit
    | 0 => failure
    | k + 1 => do
      if (← isWord "for") || (← isWord "while") || (← isWord "do") then return ()
      let _ ← variable_
      sign ":"
      loopAhead k

def condStmt (g : Grammar) : Reader Stmt := do
  word "if"
  let test ← parenthesised g
  let yes ← g.stmt
  let no ← if ← eatWord "else" then (do return some (← g.stmt)) else pure none
  return .cond test yes no

def whileStmt (g : Grammar) : Reader Stmt := do
  word "while"
  let test ← parenthesised g
  return .whileDo test (← inLoop g.stmt)

def doStmt (g : Grammar) : Reader Stmt := do
  word "do"
  let body ← inLoop g.stmt
  word "while"
  let test ← parenthesised g
  let _ ← eatSign ";"
  return .doWhile body test

def giveStmt (g : Grammar) : Reader Stmt := do
  word "return"
  guard (← get).site.returns
  let none_ ← do
    match ← token with
    | .done => pure true
    | .sign s => pure (s == ";" || s == "\x7d" || (← newline))
    | _ => newline
  let e ← if none_ then pure none else (do return some (← sequence g true))
  semicolon
  return .give e

def throwStmt (g : Grammar) : Reader Stmt := do
  word "throw"
  guard !(← newline)
  let e ← sequence g true
  semicolon
  return .throw e

def exprStmt (g : Grammar) : Reader Stmt := do
  let e ← sequence g true
  semicolon
  return .expr e

def varStmt (g : Grammar) : Reader Stmt := do
  match ← declaration g .var with
  | .stmt s _ => return s
  | .function _ => failure

/-- A name before a colon. -/
def labelAhead : Reader Bool := do
  return (← ahead do
    let _ ← variable_
    guard (← isSign ":")).isSome

def stmt (g : Grammar) (items : Reader (List Item)) : Reader Stmt := do
  match ← token with
  | .sign s =>
    if s == "\x7b" then return .block (← blockStmt items)
    else if s == ";" then
      advance
      return .empty
    else exprStmt g
  | .word w false =>
    match w with
    | "var" => varStmt g
    | "if" => condStmt g
    | "for" => forStmt g
    | "while" => whileStmt g
    | "do" => doStmt g
    | "continue" => nextStmt
    | "break" => leaveStmt
    | "return" => giveStmt g
    | "switch" => selectStmt g items
    | "throw" => throwStmt g
    | "try" => attempt g items
    | "debugger" =>
      advance
      semicolon
      return .empty
    | "function" | "class" | "with" | "export" | "let" | "const" => failure
    | _ =>
      if ← labelAhead then
        let n ← variable_
        sign ":"
        labeled g n
      else if w == "async" && (← functionAhead) then failure
      else exprStmt g
  | _ => exprStmt g

end ApiStencil.Script.Reader

/-!
Reading a whole script.
-/

namespace ApiStencil.Script

namespace Reader

/-- The readers, calling each other at most `n` deep. -/
def grammar : Nat → Grammar
  | 0 => ⟨fun _ => failure, failure, failure, failure⟩
  | n + 1 =>
    { assignment := fun allowIn s => assignment (grammar n) (itemsUpTo (grammar n) (n + 1)) allowIn s
      unary := fun s => unary (grammar n) (itemsUpTo (grammar n) (n + 1)) s
      pattern := fun s => pattern (grammar n) s
      stmt := fun s => stmt (grammar n) (itemsUpTo (grammar n) (n + 1)) s }

/-- A first line that names an interpreter is no code. -/
def codeStart (src : Token.Source) : Nat :=
  if Token.standsAt src "#!" 0 then Token.lineRest src src.size 0 else 0

def startState (src : Token.Source) (site : Site) : State :=
  { src := src, token := .done, start := 0, stop := codeStart src, newline := false, last := 0, site := site
    vars := [], bound := [], functions := 0, covers := 0, wanted := [], sites := 0 }

def script (n : Nat) : Reader Body := do
  advance
  let g := grammar n
  let atEnd : Reader Bool := do
    match ← token with
    | .done => return true
    | _ => return false
  let b ← body [] (allUpTo atEnd (item g (itemsUpTo g n)))
  let s ← get
  guard (s.covers == 0 && s.wanted.isEmpty)
  return b

end Reader

/-- The body of a script, or nothing for what is no script. -/
def Body.read? (source : List Char) (site : Reader.Site) : Option Body :=
  let src := source.toArray
  ((Reader.script (src.size + 16)).run (Reader.startState src site)).map (·.1)

end ApiStencil.Script
