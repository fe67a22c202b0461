import ApiStencil.Script.Syntax
/-!
Generator bodies in which every value is handed out by a statement of its own. What stands before
such a statement in evaluation order is kept in names that no script can write.
-/
set_option autoImplicit false

namespace ApiStencil.Script.Lift

/-- Counts the names that have been used. -/
abbrev LiftM := StateM Nat

def nameAt (i : Nat) : Units := txt s!"%{i}"

def fresh : LiftM Units := do
  let i ← get
  set (i + 1)
  return nameAt i

/-- An expression with the statements that have to run first. -/
abbrev Lifted := List Stmt × Expr

def keep (name : Units) (e : Expr) : Stmt := .expr (.assign (.ident name) e)

/-- Whether a value stays the same whatever runs before it is read. -/
def isSettled : Expr → Bool
  | .literal _ | .function _ | .this => true
  | _ => false

/-- Expressions that are evaluated from left to right; one with statements behind it is kept. -/
def arrange : List Lifted → LiftM (List Stmt × List Expr)
  | [] => return ([], [])
  | (before, e) :: rest => do
    let (stmts, es) ← arrange rest
    if stmts.isEmpty || isSettled e then return (before ++ stmts, e :: es)
    let name ← fresh
    return (before ++ [keep name e] ++ stmts, .ident name :: es)

def block (stmts : List Stmt) : Stmt := .block (.ofStmts stmts)

def first (es : List Expr) : Expr := es.headD (.literal .null)

def second (es : List Expr) : Expr := first (es.drop 1)

/-- An expression of some parts, made again from the parts as they have been lifted. -/
def rebuilt (parts : List Lifted) (f : List Expr → Expr) : LiftM Lifted := do
  let (stmts, es) ← arrange parts
  return (stmts, f es)

def elementExpr : Element → Expr
  | .hole => .literal .null
  | .one e => e
  | .spread e => .array [.spread e]

def elementOf : Element → Expr → Element
  | .hole, _ => .hole
  | .one _, e => .one e
  | .spread _, e => .spread e

def fieldExprs : Field → List Expr
  | .value (.computed k) e => [k, e]
  | .value (.fixed _) e | .proto e | .spread e => [e]
  | .method (.computed k) _ | .getter (.computed k) _ | .setter (.computed k) _ => [k]
  | _ => []

def fieldOf : Field → List Expr → Field
  | .value (.computed _) _, es => .value (.computed (first es)) (second es)
  | .value k _, es => .value k (first es)
  | .proto _, es => .proto (first es)
  | .spread _, es => .spread (first es)
  | .method (.computed _) c, es => .method (.computed (first es)) c
  | .getter (.computed _) c, es => .getter (.computed (first es)) c
  | .setter (.computed _) c, es => .setter (.computed (first es)) c
  | f, _ => f

def fieldsOf : List Field → List Expr → List Field
  | [], _ => []
  | f :: fs, es => fieldOf f (es.take (fieldExprs f).length) :: fieldsOf fs (es.drop (fieldExprs f).length)

mutual

def expr : Nat → Expr → LiftM Lifted
  | 0, e => return ([], e)
  | n + 1, e => do
    match e with
    | .yield arg =>
      let name ← fresh
      match arg with
      | none => return ([.handOut name none], .ident name)
      | some a =>
        let (stmts, a) ← expr n a
        return (stmts ++ [.handOut name (some a)], .ident name)
    | .yieldFrom source =>
      let name ← fresh
      let (stmts, source) ← expr n source
      return (stmts ++ [.handOutFrom name source], .ident name)
    | .template parts holes => rebuilt (← exprs n holes) fun es => .template parts es
    | .tagged tag parts holes =>
      rebuilt (← exprs n (tag :: holes)) fun es => .tagged (first es) parts (es.drop 1)
    | .array items =>
      rebuilt (← exprs n (items.map elementExpr)) fun es => .array (items.zipWith elementOf es)
    | .object fields => rebuilt (← exprs n (fields.flatMap fieldExprs)) fun es => .object (fieldsOf fields es)
    | .unary op a => rebuilt [← expr n a] fun es => .unary op (first es)
    | .delete a => rebuilt [← expr n a] fun es => .delete (first es)
    | .step up before a => rebuilt [← expr n a] fun es => .step up before (first es)
    | .binary op a b => rebuilt (← exprs n [a, b]) fun es => .binary op (first es) (second es)
    | .logic op a b =>
      let (before, a) ← expr n a
      let (inner, b) ← expr n b
      if inner.isEmpty then return (before, .logic op a b)
      let name ← fresh
      let test := match op with
        | .and => Expr.ident name
        | .or => .unary .not (.ident name)
        | .nullish => .binary .looseEq (.ident name) (.literal .null)
      return (before ++ [keep name a, .cond test (block (inner ++ [keep name b])) none], .ident name)
    | .cond test yes no =>
      let (before, test) ← expr n test
      let (stmts1, yes) ← expr n yes
      let (stmts2, no) ← expr n no
      if stmts1.isEmpty && stmts2.isEmpty then return (before, .cond test yes no)
      let name ← fresh
      let branch := fun (stmts : List Stmt) (e : Expr) => block (stmts ++ [keep name e])
      return (before ++ [.cond test (branch stmts1 yes) (some (branch stmts2 no))], .ident name)
    | .assign target value => assignment n target value .assign
    | .assignOp op target value =>
      let (stmts, value') ← expr n value
      if stmts.isEmpty then return ([], .assignOp op target value)
      match target with
      | .ident _ =>
        let name ← fresh
        return (keep name target :: stmts, .assign target (.binary op (.ident name) value'))
      | _ => assignment n target value fun t v => .assignOp op t v
    | .assignLogic op target value => assignment n target value fun t v => .assignLogic op t v
    | .assignPattern target value => rebuilt [← expr n value] fun es => .assignPattern target (first es)
    | .dot o name => rebuilt [← expr n o] fun es => .dot (first es) name
    | .index o k => rebuilt (← exprs n [o, k]) fun es => .index (first es) (second es)
    | .hidden o name => rebuilt [← expr n o] fun es => .hidden (first es) name
    | .call callee args =>
      let items := args.map elementExpr
      match callee with
      | .dot o name =>
        rebuilt (← exprs n (o :: items)) fun es =>
          .call (.dot (first es) name) (args.zipWith elementOf (es.drop 1))
      | .index o k =>
        rebuilt (← exprs n (o :: k :: items)) fun es =>
          .call (.index (first es) (second es)) (args.zipWith elementOf (es.drop 2))
      | _ =>
        rebuilt (← exprs n (callee :: items)) fun es => .call (first es) (args.zipWith elementOf (es.drop 1))
    | .new callee args =>
      rebuilt (← exprs n (callee :: args.map elementExpr)) fun es =>
        .new (first es) (args.zipWith elementOf (es.drop 1))
    | .chain a => rebuilt [← expr n a] fun es => .chain (first es)
    | .link a => rebuilt [← expr n a] fun es => .link (first es)
    | .sequence a b =>
      let (stmts1, a) ← expr n a
      let (stmts2, b) ← expr n b
      if stmts2.isEmpty then return (stmts1, .sequence a b) else return (stmts1 ++ [.expr a] ++ stmts2, b)
    | .await a => rebuilt [← expr n a] fun es => .await (first es)
    | e => return ([], e)

def exprs : Nat → List Expr → LiftM (List Lifted)
  | 0, es => return es.map fun e => ([], e)
  | _ + 1, [] => return []
  | n + 1, e :: rest => do
    let first ← expr n e
    return first :: (← exprs n rest)

def assignment : Nat → Expr → Expr → (Expr → Expr → Expr) → LiftM Lifted
  | 0, target, value, make => return ([], make target value)
  | n + 1, target, value, make => do
    match target with
    | .dot o name => rebuilt (← exprs n [o, value]) fun es => make (.dot (first es) name) (second es)
    | .index o k => rebuilt (← exprs n [o, k, value]) fun es => make (.index (first es) (second es)) (first (es.drop 2))
    | target => rebuilt [← expr n value] fun es => make target (first es)

end

def optional (n : Nat) : Option Expr → LiftM (List Stmt × Option Expr)
  | none => return ([], none)
  | some e => do
    let (stmts, e) ← expr n e
    return (stmts, some e)

def truth : Expr := .literal (.bool true)

/-- Leaves a loop unless a test holds. -/
def leaveUnless (test : Expr) : Stmt := .cond (.unary .not test) (.leave none) none

mutual

/-- A statement as a list of statements. -/
def stmt : Nat → Stmt → LiftM (List Stmt)
  | 0, s => return [s]
  | n + 1, s => do
    match s with
    | .expr e =>
      let (stmts, e) ← expr n e
      return stmts ++ [.expr e]
    | .declare binder items =>
      let parts ← items.mapM fun (p, init) => do
        let (stmts, init) ← optional n init
        return (stmts, (p, init))
      if parts.all fun p => p.1.isEmpty then return [.declare binder items]
      return parts.flatMap fun (stmts, item) => stmts ++ [.declare binder [item]]
    | .give e =>
      let (stmts, e) ← optional n e
      return stmts ++ [.give e]
    | .throw e =>
      let (stmts, e) ← expr n e
      return stmts ++ [.throw e]
    | .cond test yes no =>
      let (stmts, test) ← expr n test
      let yes ← one n yes
      let no ← match no with
        | some s => do pure (some (← one n s))
        | none => pure none
      return stmts ++ [.cond test yes no]
    | .whileDo test body =>
      let (stmts, test) ← expr n test
      let body ← one n body
      if stmts.isEmpty then return [.whileDo test body]
      return [.whileDo truth (block (stmts ++ [leaveUnless test, body]))]
    | .doWhile body test =>
      let (stmts, test) ← expr n test
      let body ← one n body
      if stmts.isEmpty then return [.doWhile body test]
      let again ← fresh
      let check := Stmt.cond (.ident again) (block (stmts ++ [leaveUnless test])) none
      return [keep again (.literal (.bool false)), .whileDo truth (block [check, keep again truth, body])]
    | .loop start names fresh test update body =>
      let before ← match start with
        | some s => stmt n s
        | none => pure []
      let (stmts, test) ← optional n test
      let body ← one n body
      let (test, body) := match stmts, test with
        | [], test => (test, body)
        | stmts, some t => (none, block (stmts ++ [leaveUnless t, body]))
        | _, none => (none, body)
      if before.length ≤ 1 then return [.loop before.head? names fresh test update body]
      return [.block ⟨[], names, before ++ [.loop none [] [] test update body]⟩]
    | .overKeys head source body =>
      let (stmts, source) ← expr n source
      return stmts ++ [.overKeys head source (← one n body)]
    | .overValues head source body =>
      let (stmts, source) ← expr n source
      return stmts ++ [.overValues head source (← one n body)]
    | .attempt body handler last =>
      let body ← inBlock n body
      let handler ← match handler with
        | some (p, b) => do pure (some (p, ← inBlock n b))
        | none => pure none
      let last ← match last with
        | some b => do pure (some (← inBlock n b))
        | none => pure none
      return [.attempt body handler last]
    | .select e b cases =>
      let (stmts, e) ← expr n e
      let cases ← cases.mapM fun (test, body) => do return (test, ← stmtList n body)
      return stmts ++ [.select e b cases]
    | .labeled name body =>
      let stmts ← stmt n body
      match stmts.reverse with
      | last :: before => return before.reverse ++ [.labeled name last]
      | [] => return []
    | .block b => return [.block (← inBlock n b)]
    | s => return [s]

def stmtList : Nat → List Stmt → LiftM (List Stmt)
  | 0, ss => return ss
  | _ + 1, [] => return []
  | n + 1, s :: rest => do
    let first ← stmt n s
    return first ++ (← stmtList n rest)

def one : Nat → Stmt → LiftM Stmt
  | 0, s => return s
  | n + 1, s => do
    match ← stmt n s with
    | [s] => return s
    | ss => return block ss

def inBlock : Nat → Block → LiftM Block
  | 0, b => return b
  | n + 1, b => do
    return { b with stmts := ← stmtList n b.stmts }

end

/-- How deep code may be nested. -/
def depth : Nat := 100000

def body (b : Body) : Body :=
  let (block, count) := (inBlock depth b.block).run 0
  { b with vars := b.vars ++ (List.range count).map nameAt, block }

end ApiStencil.Script.Lift
