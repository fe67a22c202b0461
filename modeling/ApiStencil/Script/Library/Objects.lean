import ApiStencil.Script.Library.Native
/-!
Objects: their properties, what they inherit from, and whether they can change.
-/
set_option autoImplicit false

namespace ApiStencil.Script.Library.Objects
open M

def proto : Intrinsic := .proto .object

def maker : Intrinsic := .maker .object

def make (c : Call) : M Value := do
  let plain ← match c.newTarget with
    | .undefined => pure true
    | t => pure (sameValue t (.object maker.ref))
  if plain then
    if (c.arg 0).isNullish then return .object (← newPlain proto .plain)
    else return .object (← toObject (c.arg 0))
  else return .object (← newInstance c .object .plain)

/-- The enumerable names of an object. -/
def shownNames (r : Nat) : M (List Units) := do
  (← ownKeys r).filterMapM fun k => do
    match k with
    | .symbol _ => return none
    | .name u =>
      match ← ownSlot? r k with
      | some s => return if s.enumerable then some u else none
      | none => return none

def keys (c : Call) : M Value := do
  newList ((← shownNames (← toObject (c.arg 0))).map Value.text)

def values (c : Call) : M Value := do
  let r ← toObject (c.arg 0)
  newList (← (← shownNames r).mapM fun u => getFrom r (.name u) (.object r))

def entries (c : Call) : M Value := do
  let r ← toObject (c.arg 0)
  newList (← (← shownNames r).mapM fun u => do newList [.text u, ← getFrom r (.name u) (.object r)])

def assign (c : Call) : M Value := do
  let r ← toObject (c.arg 0)
  for source in c.args.drop 1 do
    if !source.isNullish then
      let s ← toObject source
      for k in ← ownKeys s do
        match ← ownSlot? s k with
        | some slot => if slot.enumerable then putMember (.object r) k (← getFrom s k source)
        | none => pure ()
  return .object r

def defineAll (r : Nat) (properties : Value) : M Unit := do
  let p ← toObject properties
  let drafts ← (← ownKeys p).filterMapM fun k => do
    match ← ownSlot? p k with
    | some s => if s.enumerable then return some (k, ← draftOf (← getFrom p k (.object p))) else return none
    | none => return none
  for (k, d) in drafts do
    defineOrFail r k d

def create (c : Call) : M Value := do
  let r ← match c.arg 0 with
    | .object p => newObject ⟨some p, true, .plain, #[]⟩
    | .null => newObject ⟨none, true, .plain, #[]⟩
    | _ => typeError "not a prototype"
  match c.arg 1 with
  | .undefined => pure ()
  | properties => defineAll r properties
  return .object r

def defineProperty (c : Call) : M Value := do
  let r ← needObject (c.arg 0)
  let k ← toKey (c.arg 1)
  defineOrFail r k (← draftOf (c.arg 2))
  return c.arg 0

def defineProperties (c : Call) : M Value := do
  defineAll (← needObject (c.arg 0)) (c.arg 1)
  return c.arg 0

def describe (r : Nat) (k : Key) : M Value := do
  match ← ownSlot? r k with
  | some s => describeSlot s
  | none => undefined

def getOwnPropertyDescriptor (c : Call) : M Value := do
  let r ← toObject (c.arg 0)
  describe r (← toKey (c.arg 1))

def getOwnPropertyDescriptors (c : Call) : M Value := do
  let r ← toObject (c.arg 0)
  let result ← newPlain proto .plain
  for k in ← ownKeys r do
    let d ← describe r k
    if d.isObject then M.create result k d
  return .object result

def namesOnly (ks : List Key) : List Value :=
  ks.filterMap fun k => match k with
    | .name u => some (.text u)
    | .symbol _ => none

def symbolsOnly (ks : List Key) : List Value :=
  ks.filterMap fun k => match k with
    | .name _ => none
    | .symbol n => some (.symbol n)

def getPrototypeOf (c : Call) : M Value := do
  return protoValue (← proto? (← toObject (c.arg 0)))

/-- The object or nothing that a value names as what to inherit from. -/
def protoArg? : Value → Option (Option Nat)
  | .object p => some (some p)
  | .null => some none
  | _ => none

def setPrototype (r : Nat) (p : Option Nat) : M Unit := do
  if !(← setProto r p) then
    if ← isExtensible r then typeError "circular prototype chain" else typeError "object is not extensible"

def setPrototypeOf (c : Call) : M Value := do
  if (c.arg 0).isNullish then typeError "not an object"
  match protoArg? (c.arg 1) with
  | none => typeError "not an object"
  | some p =>
    match c.arg 0 with
    | .object r =>
      setPrototype r p
      return c.arg 0
    | v => return v

def is (c : Call) : M Value := boolean (sameValue (c.arg 0) (c.arg 1))

def preventExtensions (c : Call) : M Value := do
  match c.arg 0 with
  | .object r => if !(← M.preventExtensions r) then typeError "proxy preventExtensions handler returned false"
  | _ => pure ()
  return c.arg 0

/-- Makes all properties fixed; data is made read-only where `data` says so. -/
def fix (data : Bool) (c : Call) : M Value := do
  match c.arg 0 with
  | .object r =>
    if !(← M.preventExtensions r) then typeError "proxy preventExtensions handler returned false"
    for k in ← ownKeys r do
      match ← ownSlot? r k with
      | some (.data _ _ _ _) =>
        let writable := if data then some false else none
        defineOrFail r k { Draft.empty with configurable := some false, writable }
      | some _ => defineOrFail r k { Draft.empty with configurable := some false }
      | none => pure ()
    return c.arg 0
  | v => return v

def isFixed (data : Bool) (c : Call) : M Value := do
  match c.arg 0 with
  | .object r =>
    if ← M.isExtensible r then return .bool false
    for k in ← ownKeys r do
      match ← ownSlot? r k with
      | some (.data _ w _ configurable) => if configurable || (data && w) then return .bool false
      | some s => if s.configurable then return .bool false
      | none => pure ()
    return .bool true
  | _ => return .bool true

def isExtensible (c : Call) : M Value := do
  match c.arg 0 with
  | .object r => boolean (← M.isExtensible r)
  | _ => boolean false

def addPair (r : Nat) (pair : Value) : M Unit := do
  if !pair.isObject then typeError "not an object"
  let k ← getMember pair (.ofIndex 0)
  let v ← getMember pair (.ofIndex 1)
  M.create r (← toKey k) v

def fromEntries (c : Call) : M Value := do
  let r ← newPlain proto .plain
  let it ← iterate (c.arg 0)
  forEachOf it (addPair r) maxItems
  return .object r

/-- Values of an iterable in groups, in the order in which the keys come first. -/
def grouped (source f : Value) (toGroup : Value → M Value) : M (List (Value × List Value)) := do
  needFunction f
  let items ← valuesOf source
  let mut groups : List (Value × List Value) := []
  for (v, i) in items.toList.zipIdx do
    let k ← toGroup (← call f .undefined [v, .ofNat i])
    if groups.any fun g => sameValueZero g.1 k then
      groups := groups.map fun g => if sameValueZero g.1 k then (g.1, g.2 ++ [v]) else g
    else groups := groups ++ [(k, [v])]
  return groups

def groupBy (c : Call) : M Value := do
  let groups ← grouped (c.arg 0) (c.arg 1) fun v => do return (← toKey v).toValue
  let r ← newObject ⟨none, true, .plain, #[]⟩
  for (k, vs) in groups do
    M.create r (← toKey k) (← newList vs)
  return .object r

def hasOwn (v k : Value) : M Value := do
  let r ← toObject v
  boolean (← ownSlot? r (← toKey k)).isSome

def hasOwnProperty (c : Call) : M Value := do
  let k ← toKey (c.arg 0)
  boolean (← ownSlot? (← toObject c.this) k).isSome

def propertyIsEnumerable (c : Call) : M Value := do
  let k ← toKey (c.arg 0)
  boolean ((← ownSlot? (← toObject c.this) k).any Slot.enumerable)

def isPrototypeOf (c : Call) : M Value := do
  match c.arg 0 with
  | .object r =>
    let p ← toObject c.this
    boolean (← instanceBy.behind reach r p)
  | _ => boolean false

/-- The word for an object between the brackets of its text. -/
def tagOf (r : Nat) : M String := do
  match ← kindOf r with
  | .array _ | .sparse _ _ => return "Array"
  | .closure _ | .native _ _ | .bound _ _ _ => return "Function"
  | .proxy (some t) _ callable _ =>
    match ← kindOf t with
    | .array _ | .sparse _ _ => return "Array"
    | _ => return if callable then "Function" else "Object"
  | .error => return "Error"
  | .bool _ => return "Boolean"
  | .number _ => return "Number"
  | .text _ => return "String"
  | .date _ => return "Date"
  | .regex _ _ _ => return "RegExp"
  | .arguments => return "Arguments"
  | _ => return "Object"

def toString (c : Call) : M Value := do
  match c.this with
  | .undefined => return .ofString "[object Undefined]"
  | .null => return .ofString "[object Null]"
  | v =>
    let r ← toObject v
    let tag ← tagOf r
    match ← getFrom r KnownSymbol.toStringTag.key v with
    | .text u => return .text (txt "[object " ++ u ++ txt "]")
    | _ => return .ofString s!"[object {tag}]"

def protoGetter (c : Call) : M Value := do
  return protoValue (← proto? (← toObject c.this))

def protoSetter (c : Call) : M Value := do
  if c.this.isNullish then typeError "not an object"
  match c.this, protoArg? (c.arg 0) with
  | .object r, some p => setPrototype r p
  | _, _ => pure ()
  undefined

def defineHalf (getter : Bool) (c : Call) : M Value := do
  let r ← toObject c.this
  needFunction (c.arg 1)
  let k ← toKey (c.arg 0)
  let half := { Draft.empty with enumerable := some true, configurable := some true }
  defineOrFail r k (if getter then { half with getter := some (c.arg 1) } else { half with setter := some (c.arg 1) })
  undefined

def findHalf (getter : Bool) : Nat → Option Nat → Key → M Value
  | 0, _, _ => undefined
  | _, none, _ => undefined
  | n + 1, some r, k => do
    match ← ownSlot? r k with
    | some (.accessor g s _ _) => return if getter then g else s
    | some _ => undefined
    | none => findHalf getter n (← proto? r) k

def lookupHalf (getter : Bool) (c : Call) : M Value := do
  let r ← toObject c.this
  findHalf getter reach (some r) (← toKey (c.arg 0))

def rows : List Native :=
  [.maker .object 1 make, .method maker "keys" 1 keys, .method maker "values" 1 values,
    .method maker "entries" 1 entries, .method maker "assign" 2 assign, .method maker "create" 2 create,
    .method maker "defineProperty" 3 defineProperty, .method maker "defineProperties" 2 defineProperties,
    .method maker "getOwnPropertyDescriptor" 2 getOwnPropertyDescriptor,
    .method maker "getOwnPropertyDescriptors" 1 getOwnPropertyDescriptors,
    .method maker "getOwnPropertyNames" 1 fun c => do newList (namesOnly (← ownKeys (← toObject (c.arg 0)))),
    .method maker "getOwnPropertySymbols" 1 fun c => do newList (symbolsOnly (← ownKeys (← toObject (c.arg 0)))),
    .method maker "getPrototypeOf" 1 getPrototypeOf, .method maker "setPrototypeOf" 2 setPrototypeOf,
    .method maker "is" 2 is, .method maker "preventExtensions" 1 preventExtensions,
    .method maker "freeze" 1 (fix true), .method maker "seal" 1 (fix false),
    .method maker "isFrozen" 1 (isFixed true), .method maker "isSealed" 1 (isFixed false),
    .method maker "isExtensible" 1 isExtensible, .method maker "fromEntries" 1 fromEntries,
    .method maker "groupBy" 2 groupBy, .method maker "hasOwn" 2 fun c => hasOwn (c.arg 0) (c.arg 1),
    .method proto "hasOwnProperty" 1 hasOwnProperty, .method proto "propertyIsEnumerable" 1 propertyIsEnumerable,
    .method proto "isPrototypeOf" 1 isPrototypeOf, .method proto "toString" 0 toString,
    .method proto "toLocaleString" 0 fun c => invoke c.this (.ofString "toString") [],
    .method proto "valueOf" 0 fun c => do return .object (← toObject c.this),
    .getter proto "__proto__" protoGetter, .setter proto "__proto__" protoSetter,
    .method proto "__defineGetter__" 2 (defineHalf true), .method proto "__defineSetter__" 2 (defineHalf false),
    .method proto "__lookupGetter__" 1 (lookupHalf true), .method proto "__lookupSetter__" 1 (lookupHalf false)]

end ApiStencil.Script.Library.Objects
