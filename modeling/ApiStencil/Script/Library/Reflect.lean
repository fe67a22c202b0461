import ApiStencil.Script.Library.Native
import ApiStencil.Script.Library.Objects
/-!
What scripts can do to functions and objects from outside of these.
-/
set_option autoImplicit false

/-!
Functions as objects: calling them with given arguments, binding these, and their text.
-/

namespace ApiStencil.Script.Library.Functions
open M

def proto : Intrinsic := .proto .function

/-- A function made of the texts of its parameters and its body. -/
def make (head : String) (c : Call) : M Value := do
  let texts ← c.args.mapM toText
  let params := Units.join (txt ",") (texts.dropLast)
  let body := texts.getLastD #[]
  let source := txt s!"({head} anonymous(" ++ params ++ txt "\n) \x7b\n" ++ body ++ txt "\n\x7d)"
  (← read).evaluate source none

def call (c : Call) : M Value := callOrFail c.this (c.arg 0) (c.args.drop 1)

/-- The items of an object that stands for a list of arguments. -/
def argumentList (v : Value) : M (List Value) := do
  if !v.isObject then typeError "not an object"
  itemsOf v

def apply (c : Call) : M Value := do
  needFunction c.this
  let args ← if (c.arg 1).isNullish then pure [] else argumentList (c.arg 1)
  callOrFail c.this (c.arg 0) args

def bind (c : Call) : M Value := do
  needFunction c.this
  let f ← toObject c.this
  let first := c.args.drop 1
  let length ← if (← ownSlot? f lengthKey).isSome then getFrom f lengthKey c.this else pure (.number 0.0)
  let arity := match length with
    | .number x => if x > Float.ofNat first.length then x - Float.ofNat first.length else 0.0
    | _ => 0.0
  let name := match ← getNamed c.this "name" with
    | .text u => u
    | _ => #[]
  let r ← newObject
    ⟨← proto? f, true, .bound c.this (c.arg 0) first,
      #[(lengthKey, .data (.number arity) false false true),
        (.ofString "name", .data (.text (txt "bound " ++ name)) false false true)]⟩
  return .object r

def nativeText (name : Units) : Units := txt "function " ++ name ++ txt "() \x7b\n    [native code]\n\x7d"

def toString (c : Call) : M Value := do
  match ← kind? c.this with
  | some (.closure f) => text f.code.source
  | some (.native _ _) | some (.bound _ _ _) =>
    match ← getNamed c.this "name" with
    | .text u => text (nativeText u)
    | _ => text (nativeText #[])
  | some (.proxy _ _ true _) => text (nativeText #[])
  | _ => typeError "not a function"

def hasInstance (c : Call) : M Value := do
  if ← isCallable c.this then boolean (← instanceBy reach (c.arg 0) c.this) else boolean false

def rows : List Native :=
  [.inner .nothing "" 0 fun _ => undefined, .maker .function 1 (make "function"), .method proto "call" 1 call,
    .method proto "apply" 2 apply, .method proto "bind" 1 bind, .method proto "toString" 0 toString,
    .symbolMethod proto .hasInstance 1 hasInstance]

end ApiStencil.Script.Library.Functions

/-!
The steps of the language on objects as functions, and proxies, which answer these steps themselves.
-/

namespace ApiStencil.Script.Library.Reflect
open M

def home : Intrinsic := .fixture .reflect

def apply (c : Call) : M Value := do
  needFunction (c.arg 0)
  callOrFail (c.arg 0) (c.arg 1) (← Functions.argumentList (c.arg 2))

def construct (c : Call) : M Value := do
  needConstructor (c.arg 0)
  let newTarget := if c.args.length > 2 then c.arg 2 else c.arg 0
  needConstructor newTarget
  M.construct (c.arg 0) (← Functions.argumentList (c.arg 1)) newTarget

def get (c : Call) : M Value := do
  let r ← needObject (c.arg 0)
  getFrom r (← toKey (c.arg 1)) (if c.args.length > 2 then c.arg 2 else c.arg 0)

def set (c : Call) : M Value := do
  let r ← needObject (c.arg 0)
  let k ← toKey (c.arg 1)
  boolean ((← setFrom r k (c.arg 2) (if c.args.length > 3 then c.arg 3 else c.arg 0)) == .done)

def defineProperty (c : Call) : M Value := do
  let r ← needObject (c.arg 0)
  let k ← toKey (c.arg 1)
  boolean (← define r k (← draftOf (c.arg 2)))

def setPrototypeOf (c : Call) : M Value := do
  let r ← needObject (c.arg 0)
  match Objects.protoArg? (c.arg 1) with
  | some p => boolean (← setProto r p)
  | none => typeError "not an object"

def makeProxy (c : Call) : M Value := do
  let target ← needObject (c.arg 0)
  let handler ← needObject (c.arg 1)
  let kind := Kind.proxy (some target) (some handler) (← isCallable (c.arg 0)) (← isConstructor (c.arg 0))
  return .object (← newObject ⟨none, true, kind, #[]⟩)

def revocable (c : Call) : M Value := do
  let proxy ← makeProxy c
  let r ← newPlain (.proto .object) .plain
  create r (.ofString "proxy") proxy
  create r (.ofString "revoke") (← newInner .revoke [proxy] "" 0)
  return .object r

/-- Takes a proxy's handler from it. -/
def revoke (c : Call) : M Value := do
  match c.data.head? with
  | some (.object r) =>
    match ← kindOf r with
    | .proxy _ _ callable constructs => setKind r (.proxy none none callable constructs)
    | _ => pure ()
  | _ => pure ()
  undefined

def rows : List Native :=
  [.method home "apply" 3 apply, .method home "construct" 2 construct,
    .method home "defineProperty" 3 defineProperty,
    .method home "deleteProperty" 2 (fun c => do boolean (← deleteKey (← needObject (c.arg 0)) (← toKey (c.arg 1)))),
    .method home "get" 2 get,
    .method home "getOwnPropertyDescriptor" 2
      (fun c => do Objects.describe (← needObject (c.arg 0)) (← toKey (c.arg 1))),
    .method home "getPrototypeOf" 1 (fun c => do return protoValue (← proto? (← needObject (c.arg 0)))),
    .method home "has" 2 (fun c => do boolean (← hasKey (← needObject (c.arg 0)) (← toKey (c.arg 1)))),
    .method home "isExtensible" 1 (fun c => do boolean (← isExtensible (← needObject (c.arg 0)))),
    .method home "ownKeys" 1 (fun c => do newList ((← ownKeys (← needObject (c.arg 0))).map Key.toValue)),
    .method home "preventExtensions" 1 (fun c => do boolean (← preventExtensions (← needObject (c.arg 0)))),
    .method home "set" 3 set, .method home "setPrototypeOf" 2 setPrototypeOf,
    .maker .proxy 2 (fun c => do
      needNew c
      makeProxy c),
    .method (.maker .proxy) "revocable" 2 revocable, .inner .revoke "" 0 revoke]

end ApiStencil.Script.Library.Reflect
