import ApiStencil.Script.Units
/-!
Scripts as trees. What a body declares is listed beside its statements, so that a body can be entered
without a walk through it.
-/
set_option autoImplicit false

namespace ApiStencil.Script

inductive UnaryOp where
  | minus
  | plus
  | not
  | complement
  | kindOf
  | void

inductive BinaryOp where
  | add
  | sub
  | mul
  | div
  | rem
  | power
  | looseEq
  | looseNe
  | strictEq
  | strictNe
  | lt
  | le
  | gt
  | ge
  | shiftLeft
  | shiftRight
  | shiftRightZero
  | bitAnd
  | bitOr
  | bitXor
  | member
  | ofClass

inductive LogicOp where
  | and
  | or
  | nullish

inductive Binder where
  | var
  | vary
  | fixed
  deriving DecidableEq

/-- What a function may be used for, and where it takes `this` from. -/
inductive CodeKind where
  | plain
  | arrow
  | method
  | base
  /-- The constructor of a class that extends another one. -/
  | derived
  deriving DecidableEq

inductive Literal where
  | null
  | bool (b : Bool)
  | number (x : Float)
  | bigint (n : Int)
  | text (u : Units)

/-- The fixed parts of a template, read and as written. -/
structure TemplateParts where
  /-- A number of its own for each template of a source. -/
  site : Nat
  read : List (Option Units)
  written : List Units

mutual

inductive Expr where
  | literal (v : Literal)
  | ident (name : Units)
  | this
  | newTarget
  | regex (body flags : Units)
  | template (parts : List Units) (holes : List Expr)
  | tagged (tag : Expr) (parts : TemplateParts) (holes : List Expr)
  | array (items : List Element)
  | object (fields : List Field)
  | function (code : Code)
  | classOf (code : ClassCode)
  | unary (op : UnaryOp) (e : Expr)
  | delete (e : Expr)
  /-- Adds or takes one; `first` gives the new value. -/
  | step (up first : Bool) (target : Expr)
  | binary (op : BinaryOp) (left right : Expr)
  | logic (op : LogicOp) (left right : Expr)
  | cond (test yes no : Expr)
  | assign (target value : Expr)
  | assignOp (op : BinaryOp) (target value : Expr)
  | assignLogic (op : LogicOp) (target value : Expr)
  | assignPattern (target : Pattern) (value : Expr)
  | dot (object : Expr) (name : Units)
  | index (object key : Expr)
  /-- A member whose name only its class knows. -/
  | hidden (object : Expr) (name : Units)
  | hasHidden (name : Units) (object : Expr)
  | parent (key : Expr)
  | call (callee : Expr) (args : List Element)
  | parentCall (args : List Element)
  | new (callee : Expr) (args : List Element)
  /-- Ends early with `undefined` where a link inside finds nothing. -/
  | chain (e : Expr)
  | link (e : Expr)
  | sequence (first second : Expr)
  | yield (arg : Option Expr)
  | yieldFrom (source : Expr)
  | await (e : Expr)

inductive Element where
  | hole
  | one (e : Expr)
  | spread (e : Expr)

inductive FieldKey where
  | fixed (name : Units)
  | computed (e : Expr)

inductive Field where
  | value (key : FieldKey) (e : Expr)
  | method (key : FieldKey) (code : Code)
  | getter (key : FieldKey) (code : Code)
  | setter (key : FieldKey) (code : Code)
  | proto (e : Expr)
  | spread (e : Expr)
  /-- A name with a default, which only a pattern may hold. -/
  | cover (name : Units) (otherwise : Expr)

inductive Pattern where
  | name (name : Units)
  | place (e : Expr)
  | array (items : List PatternItem) (rest : Option Pattern)
  | object (fields : List PatternField) (rest : Option Pattern)

structure PatternItem where
  target : Option Pattern
  otherwise : Option Expr

structure PatternField where
  key : FieldKey
  target : Pattern
  otherwise : Option Expr

structure Code where
  name : Units
  kind : CodeKind
  isAsync : Bool
  isGenerator : Bool
  /-- The name is bound inside, to the function itself. -/
  bindsName : Bool
  params : List PatternItem
  rest : Option Pattern
  body : Body
  /-- The text of the function. -/
  source : Units

/-- A body with what it declares: names of `var` declarations, functions, and names of other
declarations with whether they can change. -/
structure Body where
  vars : List Units
  block : Block

structure Block where
  functions : List Code
  names : List (Units × Bool)
  stmts : List Stmt

structure ClassCode where
  /-- The name that is bound inside. -/
  name : Option Units
  /-- The name that the class shows. -/
  title : Units
  heritage : Option Expr
  make : Option Code
  elements : List ClassElement
  source : Units

inductive ClassKey where
  | shown (key : FieldKey)
  | hidden (name : Units)

inductive ClassElement where
  | method (isStatic : Bool) (key : ClassKey) (code : Code)
  | getter (isStatic : Bool) (key : ClassKey) (code : Code)
  | setter (isStatic : Bool) (key : ClassKey) (code : Code)
  | field (isStatic : Bool) (key : ClassKey) (init : Option Code)
  | initial (code : Code)

/-- What a loop over keys or values binds in each round. -/
inductive LoopHead where
  | declare (binder : Binder) (target : Pattern)
  | assign (target : Pattern)

inductive Stmt where
  | empty
  | expr (e : Expr)
  | declare (binder : Binder) (items : List (Pattern × Option Expr))
  | classOf (code : ClassCode)
  | give (e : Option Expr)
  | throw (e : Expr)
  | cond (test : Expr) (yes : Stmt) (no : Option Stmt)
  | whileDo (test : Expr) (body : Stmt)
  | doWhile (body : Stmt) (test : Expr)
  /-- `fresh` are the names that each round has its own copy of. -/
  | loop (start : Option Stmt) (names : List (Units × Bool)) (fresh : List Units) (test update : Option Expr)
      (body : Stmt)
  | overKeys (head : LoopHead) (source : Expr) (body : Stmt)
  | overValues (head : LoopHead) (source : Expr) (body : Stmt)
  | leave (label : Option Units)
  | next (label : Option Units)
  | attempt (body : Block) (handler : Option (Option Pattern × Block)) (last : Option Block)
  | select (e : Expr) (block : Block) (cases : List (Option Expr × List Stmt))
  | labeled (name : Units) (body : Stmt)
  | block (b : Block)
  /-- Hands out a value and keeps what it is given back in `into`. -/
  | handOut (into : Units) (arg : Option Expr)
  /-- Hands out all values of another generator. -/
  | handOutFrom (into : Units) (source : Expr)

end

/-- What has no symbols of its own: an empty block. -/
def Block.ofStmts (stmts : List Stmt) : Block := ⟨[], [], stmts⟩

end ApiStencil.Script
