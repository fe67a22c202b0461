import ApiStencil.Regex.Tree
import ApiStencil.Script.Intrinsic
import ApiStencil.Script.Syntax
/-!
Values of scripts, objects, and bodies that have stopped half way. Objects, scopes and the surroundings
of a call are known by their number in the store.
-/
set_option autoImplicit false

namespace ApiStencil.Script

inductive Value where
  | undefined
  | null
  | bool (b : Bool)
  | number (x : Float)
  | text (u : Units)
  | symbol (id : Nat)
  | bigint (n : Int)
  | object (ref : Nat)
  deriving Inhabited

inductive Key where
  | name (u : Units)
  | symbol (id : Nat)
  deriving DecidableEq, Inhabited

/-- A property of an object. Those of the library are made when they are first asked for. -/
inductive Slot where
  | data (value : Value) (writable enumerable configurable : Bool)
  | accessor (getter setter : Value) (enumerable configurable : Bool)
  | builtin (id : Nat) (name : Units) (arity : Nat) (listed : Bool)
  | builtinPair (getter : Nat) (setter : Option Nat) (name : Units)
  /-- The object that instances of a function inherit from. -/
  | instances

/-- The scopes in view, innermost first, and the surroundings of the call. -/
structure Env where
  scopes : List Nat
  context : Nat

/-- What an instance gets when it is made. -/
inductive Member where
  | field (key : Key) (init : Option Nat)
  | hidden (symbol : Nat) (slot : Slot)

structure Closure where
  code : Code
  env : Env
  /-- The object that the method belongs to. -/
  home : Option Nat
  members : List Member

/-- How a statement ends. -/
inductive Completion where
  | normal
  | leave (label : Option Units)
  | next (label : Option Units)
  | give (v : Value)
  | thrown (v : Value)

/-- An iterator with its method for the next value. -/
structure Iter where
  object : Value
  next : Value

/-- What is to be done when a statement has ended. -/
inductive Frame where
  | rest (stmts : List Stmt)
  | restore (env : Env)
  | labeled (labels : List Units)
  | select
  | whileDo (test : Expr) (body : Stmt) (labels : List Units)
  | doWhile (body : Stmt) (test : Expr) (labels : List Units)
  | loop (fresh : List Units) (test update : Option Expr) (body : Stmt) (labels : List Units)
  | overKeys (head : LoopHead) (body : Stmt) (labels : List Units) (object : Nat) (keys : List Units)
  | overValues (head : LoopHead) (body : Stmt) (labels : List Units) (iter : Iter)
  | attempt (handler : Option (Option Pattern × Block)) (last : Option Block) (env : Env)
  | last (ending : Completion)
  | handOut (into : Units)
  | handOutFrom (into : Units) (iter : Iter)

/-- A body that is being run. -/
structure Activation where
  next : List Stmt ⊕ Completion
  frames : List Frame
  env : Env

inductive Progress where
  | suspended (a : Activation)
  | running
  | finished

inductive PromiseState where
  | pending
  | fulfilled (v : Value)
  | rejected (v : Value)

inductive WalkOver where
  | keys
  | values
  | entries

/-- What is done to the values of an iterator. -/
inductive WalkHelper where
  | map
  | filter
  | take
  | drop
  | flatMap

/-- Iterators of the library, with the place they have come to. -/
inductive Walk where
  | items (object : Option Value) (place : Nat) (side : WalkOver)
  | map (object : Option Nat) (place : Nat) (side : WalkOver)
  | set (object : Option Nat) (place : Nat) (side : WalkOver)
  | text (u : Units) (place : Nat)
  | found (regex : Value) (u : Units) (all unicode done : Bool)
  /-- What a helper does to the values of another iterator. -/
  | helper (does : WalkHelper) (iter : Iter) (f : Value) (count : Nat) (inner : Option Iter) (done : Bool)
  | wrapped (iter : Iter)

inductive Kind where
  | plain
  /-- All elements, in order, each of them ordinary. -/
  | array (items : Array Value)
  /-- The elements are among the slots. -/
  | sparse (length : Nat) (fixed : Bool)
  | closure (c : Closure)
  | native (id : Nat) (data : List Value)
  | bound (target this : Value) (args : List Value)
  | error
  | bool (b : Bool)
  | number (x : Float)
  | text (u : Units)
  | symbol (id : Nat)
  | bigint (n : Int)
  | date (t : Float)
  | regex (source flags : Units) (regex : Regex)
  | map (entries : Array (Option (Value × Value)))
  | set (entries : Array (Option Value))
  | weakMap (entries : List (Value × Value))
  | weakSet (entries : List Value)
  | weakRef (v : Value)
  | promise (state : PromiseState)
  | proxy (target handler : Option Nat) (callable constructs : Bool)
  | generator (p : Progress)
  | walk (w : Walk)
  | arguments
  | buffer (bytes : Array UInt8)
  | view (type : ViewType) (buffer offset length : Nat)
  | dataView (buffer offset length : Nat)
  deriving Inhabited

structure Obj where
  proto : Option Nat
  extensible : Bool
  kind : Kind
  slots : Array (Key × Slot)
  deriving Inhabited

structure Binding where
  name : Units
  /-- Nothing before the declaration has been reached. -/
  value : Option Value
  changes : Bool

abbrev Scope := Array Binding

/-- The surroundings of a call: nothing stands for `this` before the parent constructor has run. -/
structure Context where
  this : Option Value
  function : Option Nat
  home : Option Nat
  newTarget : Value
  args : List Value
  /-- The object that holds the arguments, once it has been asked for. -/
  arguments : Option Nat

structure SymbolInfo where
  description : Option Units
  hidden : Bool

namespace Key

def ofString (s : String) : Key := .name (txt s)

/-- The digits of a natural number without a zero in front. -/
def digits? (us : List UInt16) : Option Nat :=
  match us with
  | [] => none
  | [48] => some 0
  | 48 :: _ => none
  | _ =>
    us.foldl (fun acc u => acc.bind fun n => if 48 ≤ u && u ≤ 57 then some (10 * n + (u.toNat - 48)) else none)
      (some 0)

/-- The place in an array that a key stands for. -/
def index? : Key → Option Nat
  | .symbol _ => none
  | .name u =>
    if u.size > 10 then none
    else
      match digits? u.toList with
      | some n => if n < 4294967295 then some n else none
      | none => none

def ofIndex (n : Nat) : Key := .name (txt (toString n))

def toValue : Key → Value
  | .name u => .text u
  | .symbol n => .symbol n

end Key

def KnownSymbol.key (s : KnownSymbol) : Key := .symbol s.id

namespace Value

def isObject : Value → Bool
  | .object _ => true
  | _ => false

def isNullish : Value → Bool
  | .undefined | .null => true
  | _ => false

def ofString (s : String) : Value := .text (txt s)

def ofNat (n : Nat) : Value := .number (Float.ofNat n)

def ofInt (n : Int) : Value := .number (Float.ofInt n)

end Value
end ApiStencil.Script
