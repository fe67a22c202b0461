import ApiStencil.Script.Library.Walks
/-!
Promises. Nothing ever waits for one: what is to be done when a promise is settled is kept for a time
that does not come.
-/
set_option autoImplicit false

namespace ApiStencil.Script.Library.Promises
open M

def proto : Intrinsic := .proto .promise

def maker : Intrinsic := .maker .promise

def isPromise (v : Value) : M Bool := do
  match ← kind? v with
  | some (.promise _) => return true
  | _ => return false

/-- Gives an open promise its outcome. -/
def settle (v : Value) (s : PromiseState) : M Unit := do
  match v with
  | .object r =>
    match ← kindOf r with
    | .promise .pending => setKind r (.promise s)
    | _ => return ()
  | _ => return ()

/-- An object with a method `then` leaves the promise open. -/
def fulfill (c : Call) : M Value := do
  let v := c.arg 0
  let waits ← match v with
    | .object _ => do isCallable (← getNamed v "then")
    | _ => pure false
  if !waits then settle (c.data.headD .undefined) (.fulfilled v)
  undefined

def reject (c : Call) : M Value := do
  settle (c.data.headD .undefined) (.rejected (c.arg 0))
  undefined

def settlers (p : Value) : M (Value × Value) := do
  return (← newInner .fulfill [p] "" 1, ← newInner .reject [p] "" 1)

def make (c : Call) : M Value := do
  needNew c
  needFunction (c.arg 0)
  let p := Value.object (← newInstance c .promise (.promise .pending))
  let (yes, no) ← settlers p
  match ← settled (call (c.arg 0) .undefined [yes, no]) with
  | .rejected v => settle p (.rejected v)
  | _ => pure ()
  return p

def resolveStatic (c : Call) : M Value := do
  let _ ← needObject c.this
  let v := c.arg 0
  if ← isPromise v then
    if sameValue (← getNamed v "constructor") c.this then return v
  newPromise (.fulfilled v)

def thenMethod (c : Call) : M Value := do
  if !(← isPromise c.this) then typeError "not a promise"
  newPromise .pending

/-- Goes through the values of an iterable; a failure gives a rejected promise. -/
def overAll (c : Call) : M Value := do
  let _ ← needObject c.this
  match ← settled (do newArray (← valuesOf (c.arg 0))) with
  | .rejected v => newPromise (.rejected v)
  | _ => newPromise .pending

def withResolvers (c : Call) : M Value := do
  let _ ← needObject c.this
  let p ← newPromise .pending
  let (yes, no) ← settlers p
  let r ← newPlain (.proto .object) .plain
  create r (.ofString "promise") p
  create r (.ofString "resolve") yes
  create r (.ofString "reject") no
  return .object r

/-- A generator whose steps give promises. -/
def asyncStep (c : Call) (how : Resumption) : M Value := do
  newPromise (← settled (Walks.resumeThis c how))

def rows : List Native :=
  [.maker .promise 1 make, .inner .fulfill "" 1 fulfill, .inner .reject "" 1 reject,
    .method maker "resolve" 1 resolveStatic,
    .method maker "reject" 1 (fun c => newPromise (.rejected (c.arg 0))), .method maker "all" 1 overAll,
    .method maker "allSettled" 1 overAll, .method maker "any" 1 overAll, .method maker "race" 1 overAll,
    .method maker "withResolvers" 0 withResolvers, .symbolGetter maker .species (fun c => return c.this),
    .method maker "try" 1 (fun c => do newPromise (← settled (callOrFail (c.arg 0) .undefined (c.args.drop 1)))),
    .method proto "then" 2 thenMethod,
    .method proto "catch" 1 (fun c => invoke c.this (.ofString "then") [.undefined, c.arg 0]),
    .method proto "finally" 1 (fun c => invoke c.this (.ofString "then") [c.arg 0, c.arg 0]),
    .method (.fixture .asyncGenerator) "next" 1 (fun c => asyncStep c (.next (c.arg 0))),
    .method (.fixture .asyncGenerator) "return" 1 (fun c => asyncStep c (.give (c.arg 0))),
    .method (.fixture .asyncGenerator) "throw" 1 (fun c => asyncStep c (.throw (c.arg 0))),
    .symbolMethod (.fixture .asyncIterator) .asyncIterator 0 fun c => return c.this]

end ApiStencil.Script.Library.Promises
