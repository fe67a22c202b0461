import ApiStencil.Script.SearchPattern
import ApiStencil.Script.Reader.Class
/-!
Expressions, from the tightest binding to the loosest.
-/
set_option autoImplicit false

namespace ApiStencil.Script.Reader

/-- Expressions between commas. -/
def sequence (g : Grammar) (allowIn : Bool) : Reader Expr := do
  let fuel := (← get).src.size + 1
  go fuel (← g.assignment allowIn)
where
  go : Nat → Expr → Reader Expr
    | 0, _ => failure
    | n + 1, e => do
      if ← eatSign "," then go n (.sequence e (← g.assignment allowIn)) else return e

def parenthesised (g : Grammar) : Reader Expr := do
  sign "("
  let e ← sequence g true
  sign ")"
  return e

def element (g : Grammar) : Reader Element := do
  if ← eatSign "..." then return .spread (← g.assignment true) else return .one (← g.assignment true)

def arguments (g : Grammar) : Reader (List Element) := do
  sign "("
  listUpTo ")" (element g)

def arrayItems (g : Grammar) : Nat → Reader (List Element)
  | 0 => failure
  | n + 1 => do
    if ← eatSign "]" then return []
    if ← eatSign "," then return .hole :: (← arrayItems g n)
    let e ← element g
    if ← eatSign "," then return e :: (← arrayItems g n)
    sign "]"
    return [e]

/-- The word stands for a modifier of the field, not for its name. -/
def fieldModifier (name : String) : Reader Bool := do
  if !(← isWord name) then return false
  let alone ← ahead do
    advance
    match ← token with
    | .sign s => return s == "(" || s == "," || s == ":" || s == "\x7d" || s == "="
    | _ => return false
  if alone == some true then return false
  advance
  return true

def field (g : Grammar) (items : Reader (List Item)) : Reader Field := do
  if ← eatSign "..." then return .spread (← g.assignment true)
  let start ← here
  if ← fieldModifier "get" then
    let key ← fieldKey g
    return .getter key (← accessor g items 0 key start)
  if ← fieldModifier "set" then
    let key ← fieldKey g
    return .setter key (← accessor g items 1 key start)
  let isAsync ← fieldModifier "async"
  let isGenerator ← eatSign "*"
  let bare ← isSign "["
  let name ← ahead variable_
  let key ← fieldKey g
  if ← isSign "(" then return .method key (← method g items isAsync isGenerator key start)
  guard (!isAsync && !isGenerator)
  if ← eatSign ":" then
    let e ← g.assignment true
    match key with
    | .fixed k => return if k == txt "__proto__" then .proto e else .value key (named k e)
    | .computed _ => return .value key e
  guard (!bare)
  match key, name with
  | .fixed k, some n =>
    guard (k == n)
    if ← eatSign "=" then
      modify fun s => { s with covers := s.covers + 1 }
      return .cover k (← g.assignment true)
    return .value key (.ident k)
  | _, _ => failure

def regexLiteral : Reader Expr := do
  let s ← get
  match Token.readPattern s.src s.start with
  | none => failure
  | some ((source, flags), stop) =>
    resume stop
    let source := Units.ofChars source
    let flags := Units.ofChars flags
    guard (searchPattern? source flags).isSome
    return .regex source flags

/-- The pieces of a template and what stands in its holes. -/
def templateRest (g : Grammar) : Nat → Reader (List (Option Units × Units) × List Expr)
  | 0 => failure
  | n + 1 => do
    match ← token with
    | .piece read written last =>
      if last then
        advance
        return ([(read, written)], [])
      advance
      let e ← sequence g true
      guard (← isSign "\x7d")
      let s ← get
      match Token.readPiece s.src (s.start + 1) with
      | none => failure
      | some (t, stop) =>
        set { s with token := t, stop := stop, last := s.stop, newline := false }
        let (parts, holes) ← templateRest g n
        return ((read, written) :: parts, e :: holes)
    | _ => failure

def template (g : Grammar) : Reader Expr := do
  let fuel := (← get).src.size + 1
  let (parts, holes) ← templateRest g fuel
  let read := parts.filterMap (·.1)
  guard (read.length == parts.length)
  return .template read holes

def tagged (g : Grammar) (tag : Expr) : Reader Expr := do
  let fuel := (← get).src.size + 1
  let (parts, holes) ← templateRest g fuel
  let site := (← get).sites
  modify fun s => { s with sites := site + 1 }
  return .tagged tag ⟨site, parts.map (·.1), parts.map (·.2)⟩ holes

/-- A member of the class above, or a call of its constructor. -/
def parentExpr (g : Grammar) : Reader Expr := do
  word "super"
  let site := (← get).site
  if ← isSign "(" then
    guard site.parentCall
    return .parentCall (← arguments g)
  guard site.parentMember
  if ← eatSign "." then return .parent (.literal (.text (← anyWord)))
  sign "["
  let e ← sequence g true
  sign "]"
  return .parent e

def sameLine : Reader Bool := do
  return (← ahead do
    advance
    guard !(← newline)).isSome

/-- The next word is `function`, on the same line. -/
def functionAhead : Reader Bool := do
  return (← ahead do
    advance
    guard (!(← newline) && (← isWord "function"))).isSome

/-- A promise for a module. There are no modules, so it stays open: it is that of an `async` function that
waits for the name. -/
def importCall (g : Grammar) : Reader Expr := do
  word "import"
  sign "("
  let name ← g.assignment true
  sign ")"
  meetFunction
  let x := txt "name"
  let waits : Body := ⟨[], .ofStmts [.expr (.await (.ident x))]⟩
  return .call (.function ⟨#[], .arrow, true, false, false, [⟨some (.name x), none⟩], none, waits, #[]⟩)
    [.one name]

def primary (g : Grammar) (items : Reader (List Item)) (member : Reader Expr) : Reader Expr := do
  let start ← here
  let fuel := (← get).src.size + 1
  match ← token with
  | .number x =>
    advance
    return .literal (.number x)
  | .bigint n =>
    advance
    return .literal (.bigint n)
  | .text u _ =>
    advance
    return .literal (.text u)
  | .piece _ _ _ => template g
  | .sign s =>
    if s == "(" then parenthesised g
    else if s == "[" then
      advance
      return .array (← arrayItems g fuel)
    else if s == "\x7b" then
      advance
      return .object (← listUpTo "\x7d" (field g items))
    else if s == "/" || s == "/=" then regexLiteral
    else failure
  | .word w escaped =>
    if escaped then return .ident (← variable_)
    match w with
    | "this" =>
      advance
      return .this
    | "null" =>
      advance
      return .literal .null
    | "true" =>
      advance
      return .literal (.bool true)
    | "false" =>
      advance
      return .literal (.bool false)
    | "function" => functionExpr g items false start
    | "class" =>
      advance
      let name := (← binds (optional binding)).1
      return .classOf (← classRest g items member name start)
    | "super" => parentExpr g
    | "import" => importCall g
    | _ =>
      if w == "async" && (← functionAhead) then
        advance
        functionExpr g items true start
      else
        if w == "eval" then meetFunction
        return .ident (← variable_)
  | _ => failure

/-- What `new` makes: a member without calls, with its arguments if there are any. -/
def newExpr (g : Grammar) (callee : Nat → Reader Expr) : Nat → Reader Expr
  | 0 => failure
  | n + 1 => do
    word "new"
    if ← eatSign "." then
      word "target"
      guard (← get).site.newTarget
      return .newTarget
    guard !(← isWord "import")
    let e ← if ← isWord "new" then newExpr g callee n else callee n
    if ← isSign "(" then return .new e (← arguments g)
    return .new e []

def useHidden : Reader Units := do
  match ← token with
  | .hidden name =>
    advance
    let n := txt name
    modify fun s => { s with wanted := if s.wanted.contains n then s.wanted else n :: s.wanted }
    return n
  | _ => failure

/-- Members and calls behind `e`; says whether a link was among them. -/
def suffixes (g : Grammar) (calls : Bool) : Nat → Expr → Bool → Reader (Expr × Bool)
  | 0, _, _ => failure
  | n + 1, e, linked => do
    match ← token with
    | .sign s =>
      if s == "." then
        advance
        match ← token with
        | .hidden _ => suffixes g calls n (.hidden e (← useHidden)) linked
        | _ => suffixes g calls n (.dot e (← anyWord)) linked
      else if s == "[" then
        advance
        let key ← sequence g true
        sign "]"
        suffixes g calls n (.index e key) linked
      else if s == "(" && calls then suffixes g calls n (.call e (← arguments g)) linked
      else if s == "?." then
        guard calls
        advance
        let link := Expr.link e
        match ← token with
        | .sign "(" => suffixes g calls n (.call link (← arguments g)) true
        | .sign "[" =>
          advance
          let key ← sequence g true
          sign "]"
          suffixes g calls n (.index link key) true
        | .hidden _ => suffixes g calls n (.hidden link (← useHidden)) true
        | _ => suffixes g calls n (.dot link (← anyWord)) true
      else return (e, linked)
    | .piece _ _ _ =>
      guard !linked
      suffixes g calls n (← tagged g e) linked
    | _ => return (e, linked)

/-- A member, called or not. -/
def leftHand (g : Grammar) (items : Reader (List Item)) (calls : Bool) : Nat → Reader Expr
  | 0 => failure
  | n + 1 => do
    let fuel := (← get).src.size + 1
    let e ←
      if ← isWord "new" then newExpr g (fun _ => leftHand g items false n) fuel
      else primary g items (leftHand g items true n)
    let (e, linked) ← suffixes g calls fuel e false
    return if linked then .chain e else e

def isSimpleTarget : Expr → Bool
  | .ident n => n != txt "eval" && n != txt "arguments"
  | .dot _ _ | .index _ _ | .hidden _ _ | .parent _ => true
  | _ => false

def postfix_ (g : Grammar) (items : Reader (List Item)) : Reader Expr := do
  let e ← leftHand g items true 64
  if ← newline then return e
  if ← isSign "++" then
    guard (isSimpleTarget e)
    advance
    return .step true false e
  if ← isSign "--" then
    guard (isSimpleTarget e)
    advance
    return .step false false e
  return e

def unaryOp? : Token → Option (Expr → Expr)
  | .sign "-" => some (.unary .minus)
  | .sign "+" => some (.unary .plus)
  | .sign "!" => some (.unary .not)
  | .sign "~" => some (.unary .complement)
  | .word "typeof" false => some (.unary .kindOf)
  | .word "void" false => some (.unary .void)
  | .word "delete" false => some .delete
  | _ => none

def canDelete : Expr → Bool
  | .ident _ | .hidden _ _ => false
  | _ => true

def unary (g : Grammar) (items : Reader (List Item)) : Reader Expr := do
  let t ← token
  match unaryOp? t with
  | some op =>
    advance
    let e ← g.unary
    -- a power of a signed value needs parentheses
    guard !(← isSign "**")
    let made := op e
    match made with
    | .delete e => guard (canDelete e)
    | _ => pure ()
    return made
  | none =>
    match t with
    | .sign "++" =>
      advance
      let e ← g.unary
      guard (isSimpleTarget e)
      return .step true true e
    | .sign "--" =>
      advance
      let e ← g.unary
      guard (isSimpleTarget e)
      return .step false true e
    | .word "await" false =>
      if (← get).site.awaits then
        advance
        let e ← g.unary
        guard !(← isSign "**")
        return .await e
      else postfix_ g items
    | _ => postfix_ g items

inductive Joint where
  | binary (op : BinaryOp)
  | logic (op : LogicOp)

def Joint.build : Joint → Expr → Expr → Expr
  | .binary op, a, b => .binary op a b
  | .logic op, a, b => .logic op a b

/-- How tightly an operator binds, and what it is. -/
def joint? (allowIn : Bool) : Token → Option (Nat × Joint)
  | .sign s =>
    match s with
    | "??" => some (1, .logic .nullish)
    | "||" => some (2, .logic .or)
    | "&&" => some (3, .logic .and)
    | "|" => some (4, .binary .bitOr)
    | "^" => some (5, .binary .bitXor)
    | "&" => some (6, .binary .bitAnd)
    | "==" => some (7, .binary .looseEq)
    | "!=" => some (7, .binary .looseNe)
    | "===" => some (7, .binary .strictEq)
    | "!==" => some (7, .binary .strictNe)
    | "<" => some (8, .binary .lt)
    | "<=" => some (8, .binary .le)
    | ">" => some (8, .binary .gt)
    | ">=" => some (8, .binary .ge)
    | "<<" => some (9, .binary .shiftLeft)
    | ">>" => some (9, .binary .shiftRight)
    | ">>>" => some (9, .binary .shiftRightZero)
    | "+" => some (10, .binary .add)
    | "-" => some (10, .binary .sub)
    | "*" => some (11, .binary .mul)
    | "/" => some (11, .binary .div)
    | "%" => some (11, .binary .rem)
    | "**" => some (12, .binary .power)
    | _ => none
  | .word "instanceof" false => some (8, .binary .ofClass)
  | .word "in" false => if allowIn then some (8, .binary .member) else none
  | _ => none

def operand (g : Grammar) (climbFrom : Nat → Reader Expr) : Reader Expr := do
  match ← token with
  | .hidden _ =>
    let n ← useHidden
    word "in"
    return .hasHidden n (← climbFrom 9)
  | _ => g.unary

/-- Whether two joints may stand side by side without parentheses: `??` does not go with `||` or `&&`. -/
def mayFollow (before tight : Nat) : Bool :=
  !(before == 1 && (tight == 2 || tight == 3)) && !(tight == 1 && (before == 2 || before == 3))

/-- Operands joined by operators that bind at least as tightly as `level`. -/
def climb (g : Grammar) (allowIn : Bool) : Nat → Nat → Reader Expr
  | 0, _ => failure
  | fuel + 1, level => do
    let rounds := (← get).src.size + 1
    let first ← operand g (climb g allowIn fuel)
    go (climb g allowIn fuel) level rounds 0 first
where
  /-- `before` is the loosest joint so far, or zero. -/
  go (right : Nat → Reader Expr) (level : Nat) : Nat → Nat → Expr → Reader Expr
    | 0, _, _ => failure
    | n + 1, before, e => do
      match joint? allowIn (← token) with
      | none => return e
      | some (tight, j) =>
        if tight < level then return e
        guard (mayFollow before tight)
        advance
        -- powers group to the right, all others to the left, and `??` takes no `||` or `&&` on its right
        let r ← right (if tight == 12 then 12 else if tight == 1 then 4 else tight + 1)
        go right level n (if tight ≤ 3 then tight else before) (j.build e r)

def conditional (g : Grammar) (allowIn : Bool) : Reader Expr := do
  let test ← climb g allowIn 64 0
  if ← eatSign "?" then
    let yes ← g.assignment true
    sign ":"
    return .cond test yes (← g.assignment allowIn)
  return test

inductive Assigner where
  | plain
  | op (op : BinaryOp)
  | logic (op : LogicOp)

def assigner? : Token → Option Assigner
  | .sign s =>
    match s with
    | "=" => some .plain
    | "+=" => some (.op .add)
    | "-=" => some (.op .sub)
    | "*=" => some (.op .mul)
    | "/=" => some (.op .div)
    | "%=" => some (.op .rem)
    | "**=" => some (.op .power)
    | "<<=" => some (.op .shiftLeft)
    | ">>=" => some (.op .shiftRight)
    | ">>>=" => some (.op .shiftRightZero)
    | "&=" => some (.op .bitAnd)
    | "|=" => some (.op .bitOr)
    | "^=" => some (.op .bitXor)
    | "&&=" => some (.logic .and)
    | "||=" => some (.logic .or)
    | "??=" => some (.logic .nullish)
    | _ => none
  | _ => none

def nameIfIdent (target value : Expr) : Expr :=
  match target with
  | .ident n => named n value
  | _ => value

/-- The parameters of an arrow function, up to and with the arrow. -/
def arrowHead (g : Grammar) (isAsync : Bool) : Reader ((List PatternItem × Option Pattern) × List Units) := do
  within (fun s => { s with awaits := s.awaits || isAsync }) do
    let (ps, names) ←
      if ← isSign "(" then paramList g
      else do
        let (n, names) ← binds binding
        pure (([⟨some (.name n), none⟩], none), names)
    guard !(← newline)
    sign "=>"
    return (ps, names)

def arrow (g : Grammar) (items : Reader (List Item)) (allowIn : Bool) : Reader Expr := do
  let start ← here
  let isAsync ← if ← isWord "async" then (do
      let plain ← ahead do
        advance
        guard (!(← newline) && !(← isSign "=>"))
      return plain.isSome) else pure false
  if isAsync then advance
  let (ps, names) ← arrowHead g isAsync
  arrowRest g items allowIn isAsync start ps names

/-- An arrow function may begin here. -/
def arrowMayBegin : Reader Bool := do
  match ← token with
  | .sign "(" => return true
  | .word w _ =>
    if w == "async" then return true
    else return (← ahead do
      let _ ← variable_
      guard (← isSign "=>")).isSome
  | _ => return false

def yieldExpr (g : Grammar) (allowIn : Bool) : Reader Expr := do
  word "yield"
  if ← newline then return .yield none
  if ← eatSign "*" then return .yieldFrom (← g.assignment allowIn)
  match ← token with
  | .done => return .yield none
  | .sign s =>
    if [")", "]", "\x7d", ",", ";", ":"].contains s then return .yield none
    else return .yield (some (← g.assignment allowIn))
  | .word "in" _ => return .yield none
  | _ => return .yield (some (← g.assignment allowIn))

def assignment (g : Grammar) (items : Reader (List Item)) (allowIn : Bool) : Reader Expr := do
  if (← get).site.yields && (← isWord "yield") then yieldExpr g allowIn
  else
    let found ← if ← arrowMayBegin then optional (arrow g items allowIn) else pure none
    match found with
    | some e => return e
    | none =>
      let covers := (← get).covers
      let left ← conditional g allowIn
      match assigner? (← token) with
      | none => return left
      | some .plain =>
        match left with
        | .array _ | .object _ =>
          let p ← toTarget covers left
          advance
          return .assignPattern p (← g.assignment allowIn)
        | _ =>
          guard (isSimpleTarget left)
          advance
          return .assign left (nameIfIdent left (← g.assignment allowIn))
      | some (.op op) =>
        guard (isSimpleTarget left)
        advance
        return .assignOp op left (← g.assignment allowIn)
      | some (.logic op) =>
        guard (isSimpleTarget left)
        advance
        return .assignLogic op left (nameIfIdent left (← g.assignment allowIn))

end ApiStencil.Script.Reader
