import ApiStencil.Decimal.Layout
import ApiStencil.Template.Tree
import ApiStencil.Text.Quoted
/-!
Values and expressions spelt out with all their parts, for messages about them.
-/
set_option autoImplicit false

namespace ApiStencil.Template

def debugFloat (x : Float) : String :=
  ({ Decimal.json with plus := false, minPoint := some (-4), nan := "NaN", infinity := "inf" } : Decimal.Layout).render x

def debugNumber : Number → String
  | .int n => toString n
  | .float x => Decimal.json.render x

mutual

def debugJson : Json → String
  | .null => "Null"
  | .bool b => "Bool(" ++ (if b then "true" else "false") ++ ")"
  | .number n => "Number(" ++ debugNumber n ++ ")"
  | .string s => "String(" ++ Text.quoted s ++ ")"
  | .array items => "Array [" ++ debugItems items ++ "]"
  | .object fields => "Object \x7b" ++ debugFields fields ++ "\x7d"

def debugItems : List Json → String
  | [] => ""
  | [v] => debugJson v
  | v :: rest => debugJson v ++ ", " ++ debugItems rest

def debugFields : List (String × Json) → String
  | [] => ""
  | [(n, v)] => Text.quoted n ++ ": " ++ debugJson v
  | (n, v) :: rest => Text.quoted n ++ ": " ++ debugJson v ++ ", " ++ debugFields rest

end

def debugBool (b : Bool) : String := if b then "true" else "false"

def MathOp.debug : MathOp → String
  | .add => "Add"
  | .sub => "Sub"
  | .mul => "Mul"
  | .div => "Div"
  | .modulo => "Modulo"

def LogicOp.debug : LogicOp → String
  | .gt => "Gt"
  | .gte => "Gte"
  | .lt => "Lt"
  | .lte => "Lte"
  | .eq => "Eq"
  | .notEq => "NotEq"
  | .and => "And"
  | .or => "Or"

/-- A record with its name and its fields. -/
def record (name : String) (fields : List (String × String)) : String :=
  name ++ " \x7b " ++ String.intercalate ", " (fields.map fun f => f.1 ++ ": " ++ f.2) ++ " \x7d"

def wrapped (name inner : String) : String := name ++ "(" ++ inner ++ ")"

def bracketed (items : List String) : String := "[" ++ String.intercalate ", " items ++ "]"

mutual

def Expr.debug : Expr → String
  | .mk v negated filters =>
    record "Expr" [("val", v.debug), ("negated", debugBool negated), ("filters", bracketed (debugCalls filters))]

def Operand.debug : Operand → String
  | .string s => wrapped "String" (Text.quoted s)
  | .int n => wrapped "Int" (toString n)
  | .float x => wrapped "Float" (debugFloat x)
  | .bool b => wrapped "Bool" (debugBool b)
  | .ident s => wrapped "Ident" (Text.quoted s)
  | .math l op r =>
    wrapped "Math" (record "MathExpr" [("lhs", l.debug), ("rhs", r.debug), ("operator", op.debug)])
  | .logic l op r =>
    wrapped "Logic" (record "LogicExpr" [("lhs", l.debug), ("rhs", r.debug), ("operator", op.debug)])
  | .test ident negated name args =>
    wrapped "Test" (record "Test" [("ident", Text.quoted ident), ("negated", debugBool negated),
      ("name", Text.quoted name), ("args", bracketed (debugExprs args))])
  | .macroCall space name args =>
    wrapped "MacroCall" (record "MacroCall" [("namespace", Text.quoted space), ("name", Text.quoted name),
      ("args", "\x7b" ++ String.intercalate ", " (debugArgs args) ++ "\x7d")])
  | .call c => wrapped "FunctionCall" c.debug
  | .array items => wrapped "Array" (bracketed (debugExprs items))
  | .concat parts => wrapped "StringConcat" (record "StringConcat" [("values", bracketed (debugOperands parts))])
  | .member l r negated =>
    wrapped "In" (record "In" [("lhs", l.debug), ("rhs", r.debug), ("negated", debugBool negated)])

def Call.debug : Call → String
  | .mk name args =>
    record "FunctionCall" [("name", Text.quoted name),
      ("args", "\x7b" ++ String.intercalate ", " (debugArgs args) ++ "\x7d")]

def debugCalls : List Call → List String
  | [] => []
  | c :: rest => c.debug :: debugCalls rest

def debugExprs : List Expr → List String
  | [] => []
  | e :: rest => e.debug :: debugExprs rest

def debugOperands : List Operand → List String
  | [] => []
  | v :: rest => v.debug :: debugOperands rest

def debugArgs : List (String × Expr) → List String
  | [] => []
  | (n, e) :: rest => (Text.quoted n ++ ": " ++ e.debug) :: debugArgs rest

end

end ApiStencil.Template
