import ApiStencil.Script.Library.Native
/-!
Errors as scripts make them.
-/
set_option autoImplicit false

namespace ApiStencil.Script.Library.Errors
open M

def proto : Intrinsic := .proto (.error .error)

/-- A message and a cause, as far as they are given. -/
def describe (r : Nat) (message options : Value) : M Unit := do
  match message with
  | .undefined => pure ()
  | m => addSlot r (.ofString "message") (concealed (.text (← toText m)))
  match options with
  | .object o =>
    if ← hasKey o (.ofString "cause") then
      addSlot r (.ofString "cause") (concealed (← getFrom o (.ofString "cause") options))
  | _ => pure ()
  addSlot r (.ofString "stack") (concealed (.text #[]))

def make (k : ErrorKind) (c : Call) : M Value := do
  let r ← newInstance c (.error k) .error
  describe r (c.arg 0) (c.arg 1)
  return .object r

def makeAggregate (c : Call) : M Value := do
  let r ← newInstance c (.error .aggregate) .error
  describe r (c.arg 1) (c.arg 2)
  let errors ← valuesOf (c.arg 0)
  addSlot r (.ofString "errors") (concealed (← newArray errors))
  return .object r

def toString (c : Call) : M Value := do
  if !c.this.isObject then typeError "not an object"
  let part := fun (name otherwise : String) => do
    match ← getNamed c.this name with
    | .undefined => return txt otherwise
    | v => toText v
  let name ← part "name" "Error"
  let message ← part "message" ""
  if name.isEmpty then text message
  else if message.isEmpty then text name
  else text (name ++ txt ": " ++ message)

def captureStackTrace (c : Call) : M Value := do
  let r ← needObject (c.arg 0)
  defineOrFail r (.ofString "stack") (.concealed (.text #[]))
  undefined

def rows : List Native :=
  (ErrorKind.all.filter (· != .aggregate)).map (fun k => .maker (.error k) 1 (make k)) ++
    [.maker (.error .aggregate) 2 makeAggregate, .method proto "toString" 0 toString,
      .method (.maker (.error .error)) "captureStackTrace" 2 captureStackTrace]

end ApiStencil.Script.Library.Errors
