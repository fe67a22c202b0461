import ApiStencil.Decimal.Layout
import ApiStencil.Script.Reader.State
/-!
Patterns that take values apart: where names are bound, and where an expression turns out to be the
target of an assignment.
-/
set_option autoImplicit false

namespace ApiStencil.Script.Reader

/-- An expression as the value of a name, which a function or class without one takes. -/
def named (n : Units) : Expr → Expr
  | .function c => .function (if c.name.isEmpty then { c with name := n } else c)
  | .classOf c => .classOf (if c.name.isNone && c.title.isEmpty then { c with title := n } else c)
  | e => e

def namedFor : Pattern → Expr → Expr
  | .name n, e => named n e
  | _, e => e

def numberKey (x : Float) : Units := txt (Decimal.script.render x)

/-- The key of a field, between brackets or as it stands. -/
def fieldKey (g : Grammar) : Reader FieldKey := do
  match ← token with
  | .word w _ =>
    advance
    return .fixed (txt w)
  | .text u _ =>
    advance
    return .fixed u
  | .number x =>
    advance
    return .fixed (numberKey x)
  | .bigint n =>
    advance
    return .fixed (txt (toString n))
  | _ =>
    sign "["
    let e ← g.assignment true
    sign "]"
    return .computed e

/-- A pattern with its default. -/
def patternItem (g : Grammar) : Reader PatternItem := do
  let target ← g.pattern
  if ← eatSign "=" then return ⟨some target, some (namedFor target (← g.assignment true))⟩
  return ⟨some target, none⟩

def arrayPattern (g : Grammar) : Nat → Reader (List PatternItem × Option Pattern)
  | 0 => failure
  | n + 1 => do
    if ← eatSign "]" then return ([], none)
    if ← eatSign "," then
      let (items, rest) ← arrayPattern g n
      return (⟨none, none⟩ :: items, rest)
    if ← eatSign "..." then
      let rest ← g.pattern
      sign "]"
      return ([], some rest)
    let item ← patternItem g
    if ← eatSign "," then
      let (items, rest) ← arrayPattern g n
      return (item :: items, rest)
    sign "]"
    return ([item], none)

def patternField (g : Grammar) : Reader PatternField := do
  let name := (← ahead variable_)
  let key ← fieldKey g
  if ← eatSign ":" then
    let item ← patternItem g
    match item.target with
    | some target => return ⟨key, target, item.otherwise⟩
    | none => failure
  else
    match key, name with
    | .fixed k, some n =>
      guard (k == n && n != txt "eval" && n != txt "arguments")
      modify fun s => { s with bound := n :: s.bound }
      if ← eatSign "=" then return ⟨key, .name n, some (named n (← g.assignment true))⟩
      return ⟨key, .name n, none⟩
    | _, _ => failure

def objectPattern (g : Grammar) : Nat → Reader (List PatternField × Option Pattern)
  | 0 => failure
  | n + 1 => do
    if ← eatSign "\x7d" then return ([], none)
    if ← eatSign "..." then
      let rest ← binding
      sign "\x7d"
      return ([], some (.name rest))
    let field ← patternField g
    if ← eatSign "," then
      let (fields, rest) ← objectPattern g n
      return (field :: fields, rest)
    sign "\x7d"
    return ([field], none)

/-- A pattern that binds names. -/
def pattern (g : Grammar) : Reader Pattern := do
  let fuel := (← get).src.size + 1
  if ← eatSign "[" then
    let (items, rest) ← arrayPattern g fuel
    return .array items rest
  else if ← eatSign "\x7b" then
    let (fields, rest) ← objectPattern g fuel
    return .object fields rest
  else return .name (← binding)

mutual

/-- An expression as the target of an assignment. -/
def target? : Nat → Expr → Option Pattern
  | 0, _ => none
  | n + 1, e =>
    match e with
    | .ident name => if name == txt "eval" || name == txt "arguments" then none else some (.name name)
    | .dot _ _ | .index _ _ | .hidden _ _ | .parent _ => some (.place e)
    | .array items => (targetItems? n items).map fun (items, rest) => .array items rest
    | .object fields => (targetFields? n fields).map fun (fields, rest) => .object fields rest
    | _ => none

/-- A target with its default. -/
def targetItem? : Nat → Expr → Option PatternItem
  | 0, _ => none
  | n + 1, e =>
    match e with
    | .assign t v => (target? n t).map fun p => ⟨some p, some v⟩
    | .assignPattern p v => some ⟨some p, some v⟩
    | e => (target? n e).map fun p => ⟨some p, none⟩

def targetItems? : Nat → List Element → Option (List PatternItem × Option Pattern)
  | 0, _ => none
  | _ + 1, [] => some ([], none)
  | n + 1, .hole :: more => (targetItems? n more).map fun (items, rest) => (⟨none, none⟩ :: items, rest)
  | n + 1, [.spread e] => (target? n e).map fun p => ([], some p)
  | _ + 1, .spread _ :: _ :: _ => none
  | n + 1, .one e :: more => do
    let item ← targetItem? n e
    let (items, rest) ← targetItems? n more
    return (item :: items, rest)

def targetFields? : Nat → List Field → Option (List PatternField × Option Pattern)
  | 0, _ => none
  | _ + 1, [] => some ([], none)
  | n + 1, [.spread e] => (target? n e).map fun p => ([], some p)
  | n + 1, f :: more => do
    let field ← match f with
      | .value key e => do
        let item ← targetItem? n e
        let p ← item.target
        some (PatternField.mk key p item.otherwise)
      | .proto e => do
        let item ← targetItem? n e
        let p ← item.target
        some (PatternField.mk (.fixed (txt "__proto__")) p item.otherwise)
      | .cover name otherwise => some (PatternField.mk (.fixed name) (.name name) (some (named name otherwise)))
      | _ => none
    let (fields, rest) ← targetFields? n more
    return (field :: fields, rest)

end

/-- The expression as a target; its defaults are then no longer out of place. -/
def toTarget (covers : Nat) (e : Expr) : Reader Pattern := do
  match target? ((← get).src.size + 2) e with
  | some p =>
    modify fun s => { s with covers := covers }
    return p
  | none => failure

end ApiStencil.Script.Reader
