import ApiStencil.Json.Basic
/-!
Templates as trees: expressions with filters, and the nodes that a template is a list of.
-/
set_option autoImplicit false

namespace ApiStencil.Template

inductive MathOp where
  | add
  | sub
  | mul
  | div
  | modulo
  deriving DecidableEq

inductive LogicOp where
  | gt
  | gte
  | lt
  | lte
  | eq
  | notEq
  | and
  | or
  deriving DecidableEq

def MathOp.isTight : MathOp → Bool
  | .add | .sub => false
  | .mul | .div | .modulo => true

def LogicOp.isTight : LogicOp → Bool
  | .or => false
  | _ => true

mutual

/-- A value with the filters that it runs through; the negation comes last. -/
inductive Expr where
  | mk (value : Operand) (negated : Bool) (filters : List Call)

inductive Operand where
  | string (s : String)
  | int (n : Int)
  | float (x : Float)
  | bool (b : Bool)
  | ident (name : String)
  | math (left : Expr) (op : MathOp) (right : Expr)
  | logic (left : Expr) (op : LogicOp) (right : Expr)
  | test (ident : String) (negated : Bool) (name : String) (args : List Expr)
  | macroCall (space name : String) (args : List (String × Expr))
  | call (c : Call)
  | array (items : List Expr)
  | concat (parts : List Operand)
  | member (left right : Expr) (negated : Bool)

/-- A filter or function by name, with named arguments. -/
inductive Call where
  | mk (name : String) (args : List (String × Expr))

end

namespace Call

def name : Call → String
  | .mk name _ => name

def args : Call → List (String × Expr)
  | .mk _ args => args

end Call

namespace Expr

def ofOperand (v : Operand) : Expr := .mk v false []

def value : Expr → Operand
  | .mk v _ _ => v

def negated : Expr → Bool
  | .mk _ n _ => n

def filters : Expr → List Call
  | .mk _ _ fs => fs

end Expr

/-- Whether the blanks on either side of a tag are cut off. -/
structure Trim where
  left : Bool
  right : Bool
  deriving DecidableEq

structure MacroDef where
  name : String
  /-- Parameters with their defaults. -/
  params : List (String × Option Operand)

mutual

inductive Node where
  | text (s : String)
  | print (trim : Trim) (e : Expr)
  | parent
  | definition (start : Trim) (m : MacroDef) (body : List Node) (stop : Trim)
  | extend (trim : Trim) (name : String)
  | embed (trim : Trim) (names : List String) (optional : Bool)
  | load (trim : Trim) (file space : String)
  | set (trim : Trim) (key : String) (value : Expr) (global : Bool)
  | raw (start : Trim) (s : String) (stop : Trim)
  | filter (start : Trim) (f : Call) (body : List Node) (stop : Trim)
  | block (start : Trim) (name : String) (body : List Node) (stop : Trim)
  | loop (start : Trim) (key : Option String) (item : String) (container : Expr) (body : List Node)
      (otherwise : List Node) (stop : Trim)
  | cond (branches : List Branch) (elseTrim : Option Trim) (otherwise : List Node) (stop : Trim)
  | leave (trim : Trim)
  | next (trim : Trim)
  | comment (trim : Trim)

/-- A condition with the tag that holds it and the body that depends on it. -/
inductive Branch where
  | mk (trim : Trim) (condition : Expr) (body : List Node)

end

end ApiStencil.Template
