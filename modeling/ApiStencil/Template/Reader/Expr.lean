import ApiStencil.Template.Reader.Scan
import ApiStencil.Template.Tree
/-!
Reading expressions. Alternatives are tried in a fixed order and the first that fits is taken, so the
order is part of the language.
-/
set_option autoImplicit false

namespace ApiStencil.Template.Reader

/-- Runs of tight operators joined from the left; the loose ones remain. -/
def joinTight {ω α : Type} (tight : ω → Bool) (join : α → ω → α → α) : α → List (ω × α) → α × List (ω × α)
  | a, [] => (a, [])
  | a, (op, b) :: rest =>
    if tight op then joinTight tight join (join a op b) rest
    else
      let (b, rest) := joinTight tight join b rest
      (a, (op, b) :: rest)

/-- A chain of operands as a tree, tight operators first. -/
def climb {ω α : Type} (tight : ω → Bool) (join : α → ω → α → α) (a : α) (rest : List (ω × α)) : α :=
  let (a, loose) := joinTight tight join a rest
  loose.foldl (fun a x => join a x.1 x.2) a

def mathOp : Reader MathOp :=
  (do literal "+"; return .add) <|> (do literal "-"; return .sub) <|> (do literal "*"; return .mul) <|>
    (do literal "/"; return .div) <|> (do literal "%"; return .modulo)

def compareOp : Reader LogicOp :=
  (do literal "<="; return .lte) <|> (do literal ">="; return .gte) <|> (do literal ">"; return .gt) <|>
    (do literal "<"; return .lt) <|> (do literal "=="; return .eq) <|> (do literal "!="; return .notEq)

def oneBlank : Reader Unit := fun cs =>
  match cs with
  | c :: rest => if isSpace c then some ((), rest) else none
  | [] => none

/-- A word operator has to be followed by a blank. -/
def wordOp (s : String) : Reader Unit := do
  literal s
  oneBlank

def logicOp : Reader LogicOp :=
  (do wordOp "or"; return .or) <|> (do wordOp "and"; return .and)

def mathOperand (l : Operand) (op : MathOp) (r : Operand) : Operand :=
  .math (.ofOperand l) op (.ofOperand r)

def mathExpr (l : Expr) (op : MathOp) (r : Expr) : Expr :=
  .ofOperand (.math l op r)

def logicExpr (l : Expr) (op : LogicOp) (r : Expr) : Expr :=
  .ofOperand (.logic l op r)

/-- Operators with the operands behind them. -/
def tail {ω α : Type} (op : Reader ω) (operand : Reader α) : Reader (List (ω × α)) :=
  many do
    blanks
    let o ← op
    blanks
    return (o, ← operand)

/-- Neighbouring strings become one. -/
def joinStrings : List Operand → List Operand
  | [] => []
  | .string a :: rest =>
    match joinStrings rest with
    | .string b :: more => .string (a ++ b) :: more
    | more => .string a :: more
  | part :: rest => part :: joinStrings rest

def isEmptyString : Operand → Bool
  | .string s => s.isEmpty
  | _ => false

/-- Strings alone make a string. -/
def concatenation (parts : List Operand) : Operand :=
  match joinStrings parts with
  | [.string s] => .string s
  | joined => .concat (joined.filter fun part => !isEmptyString part)

/-- Arguments by name; of two with one name the later counts. -/
def keepLast (args : List (String × Expr)) : List (String × Expr) :=
  args.foldr (fun x acc => if acc.any (·.1 == x.1) then acc else x :: acc) []

mutual

def functionCall : Nat → Reader Call
  | 0 => failure
  | fuel + 1 => do
    let name ← ident
    word "("
    return .mk name (← arguments fuel)

/-- Named arguments up to and past the closing parenthesis. -/
def arguments : Nat → Reader (List (String × Expr))
  | 0 => failure
  | fuel + 1 => do
    blanks
    let args ← option (commaSeparated (argument fuel))
    if args.isSome then
      let _ ← option (word ",")
    word ")"
    return keepLast (args.getD [])

def argument : Nat → Reader (String × Expr)
  | 0 => failure
  | fuel + 1 => do
    let name ← ident
    word "="
    blanks
    return (name, ← anyExpr fuel)

/-- A logic expression or a list, with filters. -/
def anyExpr : Nat → Reader Expr
  | 0 => failure
  | fuel + 1 => logic fuel <|> arrayFiltered fuel

def filterOf : Nat → Reader Call
  | 0 => failure
  | fuel + 1 => do
    blanks
    literal "|"
    blanks
    functionCall fuel <|> (do return .mk (← ident) [])

def testCall : Nat → Reader (String × List Expr)
  | 0 => failure
  | fuel + 1 => do
    let name ← ident
    let args ← option (do
      word "("
      blanks
      let args ← commaSeparated (anyExpr fuel)
      word ")"
      return args)
    return (name, args.getD [])

def test : Nat → Reader Operand
  | 0 => failure
  | fuel + 1 => do
    let name ← variableName
    word "is"
    (do word "not"; blanks
        let (t, args) ← testCall fuel
        return .test name true t args) <|>
    (do blanks
        let (t, args) ← testCall fuel
        return .test name false t args)

def macroCall : Nat → Reader Operand
  | 0 => failure
  | fuel + 1 => do
    let space ← ident
    word "::"
    blanks
    let name ← ident
    word "("
    return .macroCall space name (← arguments fuel)

def basicValue : Nat → Reader Operand
  | 0 => failure
  | fuel + 1 =>
    (do return .bool (← boolean)) <|> test fuel <|> macroCall fuel <|>
      (do return .call (← functionCall fuel)) <|> (do return .ident (← variableName)) <|>
      (do return .float (← float)) <|> (do return .int (← int))

def basicOperand : Nat → Reader Operand
  | 0 => failure
  | fuel + 1 =>
    (do literal "("; blanks
        let v ← basic fuel
        word ")"
        return v) <|> basicValue fuel

def basic : Nat → Reader Operand
  | 0 => failure
  | fuel + 1 => do
    let first ← basicOperand fuel
    return climb MathOp.isTight mathOperand first (← tail mathOp (basicOperand fuel))

def basicFiltered : Nat → Reader Expr
  | 0 => failure
  | fuel + 1 => do
    let v ← basic fuel
    return .mk v false (← many (filterOf fuel))

def concatPart : Nat → Reader Operand
  | 0 => failure
  | fuel + 1 =>
    (do return .call (← functionCall fuel)) <|> (do return .float (← float)) <|>
      (do return .int (← int)) <|> (do return .string (← string)) <|> (do return .ident (← variableName))

/-- A string, or parts that are joined to one. -/
def stringFiltered : Nat → Reader Expr
  | 0 => failure
  | fuel + 1 => do
    let v ← (do
      let first ← concatPart fuel
      let rest ← tail (literal "~") (concatPart fuel)
      guard (!rest.isEmpty)
      return concatenation (first :: rest.map (·.2))) <|> (do return .string (← string))
    return .mk v false (← many (filterOf fuel))

/-- Filtered operands joined by arithmetic, the first of which has been read. -/
def comparisonFrom : Nat → Expr → Reader Expr
  | 0, _ => failure
  | fuel + 1, first => do
    return climb MathOp.isTight mathExpr first (← tail mathOp (basicFiltered fuel))

/-- The container behind `in`, with the negation before it. -/
def membership : Nat → Expr → Reader Expr
  | 0, _ => failure
  | fuel + 1, left => do
    blanks
    let negated ← succeeds (wordOp "not")
    word "in"
    blanks
    let right ← stringFiltered fuel <|> arrayFiltered fuel <|>
      (do return .ofOperand (.ident (← variableName)))
    return .ofOperand (.member left right negated)

def comparisonSide : Nat → Reader Expr
  | 0 => failure
  | fuel + 1 => stringFiltered fuel <|> (do comparisonFrom fuel (← basicFiltered fuel))

/-- What may follow the left side of a comparison. -/
def comparisonRest : Nat → Expr → Reader Expr
  | 0, _ => failure
  | fuel + 1, left => do
    let right ← option (do
      blanks
      let op ← compareOp
      blanks
      return (op, ← comparisonSide fuel))
    match right with
    | some (op, right) => return logicExpr left op right
    | none => return left

def condition : Nat → Reader Expr
  | 0 => failure
  | fuel + 1 =>
    (do let left ← stringFiltered fuel
        membership fuel left <|> comparisonRest fuel left) <|>
    (do let left ← basicFiltered fuel
        membership fuel left <|> (do comparisonRest fuel (← comparisonFrom fuel left)))

/-- A condition with its negation, or an expression in parentheses, which drops a negation that stands
alone in it. -/
def logicOperand : Nat → Reader Expr
  | 0 => failure
  | fuel + 1 =>
    (do let negated ← succeeds (wordOp "not")
        if negated then blanks
        let e ← condition fuel
        return .mk e.value negated e.filters) <|>
    (do literal "("; blanks
        let e ← logic fuel
        word ")"
        return .mk e.value false e.filters)

def logic : Nat → Reader Expr
  | 0 => failure
  | fuel + 1 => do
    let first ← logicOperand fuel
    return climb LogicOp.isTight logicExpr first (← tail logicOp (logicOperand fuel))

def array : Nat → Reader Operand
  | 0 => failure
  | fuel + 1 => do
    literal "["
    blanks
    let items ← option (commaSeparated (logicOperand fuel))
    if items.isSome then
      let _ ← option (word ",")
    word "]"
    return .array (items.getD [])

def arrayFiltered : Nat → Reader Expr
  | 0 => failure
  | fuel + 1 => do
    let v ← array fuel
    return .mk v false (← many (filterOf fuel))

end

/-- Runs a reader with enough fuel for what is left. -/
def fueled {α : Type} (p : Nat → Reader α) : Reader α := do
  p (20 * (← get).length + 40)

def expression : Reader Expr := fueled anyExpr

def logicExpression : Reader Expr := fueled logic

def containerExpr : Reader Expr := fueled basicFiltered <|> fueled arrayFiltered

def call : Reader Call := fueled functionCall <|> (do return .mk (← ident) [])

def defaultValue : Reader Operand :=
  (do return .bool (← boolean)) <|> (do return .string (← string)) <|> (do return .float (← float)) <|>
    (do return .int (← int))

end ApiStencil.Template.Reader
