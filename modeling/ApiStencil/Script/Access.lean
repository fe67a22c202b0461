import ApiStencil.Script.Slot
/-!
Properties as scripts reach them: through what an object inherits from, through getters and setters,
and through the handlers of proxies.
-/
set_option autoImplicit false

namespace ApiStencil.Script

/-- What comes of an assignment to a property. -/
inductive Outcome where
  | done
  | readOnly
  | noSetter
  | notExtensible
  | notObject
  | refused
  deriving DecidableEq

namespace M

/-- A key as it stands in messages. -/
def keyName (k : Key) : M String := do
  match k with
  | .name u => return u.toText
  | .symbol n => return (((← look).symbols[n]?).bind (·.description)).elim "" Units.toText

def isCallable (v : Value) : M Bool := do
  return (← kind? v).any Kind.callable

def callOrFail (f this : Value) (args : List Value) : M Value := do
  if ← isCallable f then call f this args else typeError "not a function"

def truthy : Value → Bool
  | .undefined | .null => false
  | .bool b => b
  | .number x => !(x == 0.0 || x.isNaN)
  | .text u => !u.isEmpty
  | .bigint n => n != 0
  | .symbol _ | .object _ => true

/-- How many objects an access may pass on its way. -/
def reach : Nat := 1000000

def protoValue : Option Nat → Value
  | some p => .object p
  | none => .null

def proxyParts (target handler : Option Nat) : M (Nat × Nat) := do
  match target, handler with
  | some t, some h => return (t, h)
  | _, _ => typeError "revoked proxy"

/-- A property as an object that describes it. -/
def describeSlot (s : Slot) : M Value := do
  let fields := match s with
    | .data v w e c =>
      [("value", v), ("writable", Value.bool w), ("enumerable", .bool e), ("configurable", .bool c)]
    | .accessor g t e c => [("get", g), ("set", t), ("enumerable", .bool e), ("configurable", .bool c)]
    | _ => []
  let slots := fields.map fun (n, v) => (Key.ofString n, shown v)
  return .object (← newObject ⟨some (Intrinsic.proto .object).ref, true, .plain, slots.toArray⟩)

def describeDraft (d : Draft) : M Value := do
  let field := fun (n : String) (v : Option Value) => v.toList.map fun v => (Key.ofString n, shown v)
  let flag := fun (n : String) (b : Option Bool) => field n (b.map Value.bool)
  let slots := field "value" d.value ++ flag "writable" d.writable ++ field "get" d.getter ++
    field "set" d.setter ++ flag "enumerable" d.enumerable ++ flag "configurable" d.configurable
  return .object (← newObject ⟨some (Intrinsic.proto .object).ref, true, .plain, slots.toArray⟩)

mutual

def protoAt : Nat → Nat → M (Option Nat)
  | 0, _ => rangeError "Maximum call stack size exceeded"
  | n + 1, r => do
    let o ← object r
    match o.kind with
    | .proxy target handler _ _ =>
      let (t, h) ← proxyParts target handler
      match ← trapAt n h "getPrototypeOf" with
      | none => protoAt n t
      | some f =>
        match ← callOrFail f (.object h) [.object t] with
        | .object p => return some p
        | .null => return none
        | _ => typeError "proxy: inconsistent prototype"
    | _ => return o.proto

def slotAt : Nat → Nat → Key → M (Option Slot)
  | 0, _, _ => rangeError "Maximum call stack size exceeded"
  | n + 1, r, k => do
    match ← kindOf r with
    | .proxy target handler _ _ =>
      let (t, h) ← proxyParts target handler
      match ← trapAt n h "getOwnPropertyDescriptor" with
      | none => slotAt n t k
      | some f =>
        let v ← callOrFail f (.object h) [.object t, k.toValue]
        match v with
        | .undefined => return none
        | .object d => return some (← draftFrom n d).toSlot
        | _ => typeError "proxy: inconsistent getOwnPropertyDescriptor"
    | _ => plainSlot? r k

/-- The draft that an object describes. -/
def draftFrom : Nat → Nat → M Draft
  | 0, _ => rangeError "Maximum call stack size exceeded"
  | n + 1, r => do
    let field := fun (name : String) => do
      let k := Key.ofString name
      if ← hasAt n r k then return some (← getAt n r k (.object r)) else return (none : Option Value)
    let configurable ← field "configurable"
    let enumerable ← field "enumerable"
    let value ← field "value"
    let writable ← field "writable"
    let getter ← field "get"
    let setter ← field "set"
    for (f, what) in [(getter, "getter"), (setter, "setter")] do
      match f with
      | none | some .undefined => pure ()
      | some f => if !(← isCallable f) then typeError s!"invalid {what}"
    if (getter.isSome || setter.isSome) && (value.isSome || writable.isSome) then
      typeError "cannot have setter/getter and value or writable"
    return ⟨value, getter, setter, writable.map truthy, enumerable.map truthy, configurable.map truthy⟩

/-- The function of a handler for an access, if it has one. -/
def trapAt : Nat → Nat → String → M (Option Value)
  | 0, _, _ => rangeError "Maximum call stack size exceeded"
  | n + 1, h, name => do
    let f ← getAt n h (.ofString name) (.object h)
    return if f.isNullish then none else some f

def hasAt : Nat → Nat → Key → M Bool
  | 0, _, _ => rangeError "Maximum call stack size exceeded"
  | n + 1, r, k => do
    match ← kindOf r with
    | .proxy target handler _ _ =>
      let (t, h) ← proxyParts target handler
      match ← trapAt n h "has" with
      | none => hasAt n t k
      | some f => return truthy (← callOrFail f (.object h) [.object t, k.toValue])
    | _ =>
      if (← plainSlot? r k).isSome then return true
      match (← object r).proto with
      | none => return false
      | some p => hasAt n p k

def getAt : Nat → Nat → Key → Value → M Value
  | 0, _, _, _ => rangeError "Maximum call stack size exceeded"
  | n + 1, r, k, this => do
    match ← kindOf r with
    | .proxy target handler _ _ =>
      let (t, h) ← proxyParts target handler
      match ← trapAt n h "get" with
      | none => getAt n t k this
      | some f => callOrFail f (.object h) [.object t, k.toValue, this]
    | _ =>
      match ← plainSlot? r k with
      | some (.data v _ _ _) => return v
      | some (.accessor .undefined _ _ _) => return .undefined
      | some (.accessor g _ _ _) => call g this []
      | some _ => return .undefined
      | none =>
        match (← object r).proto with
        | none => return .undefined
        | some p => getAt n p k this

end

def proto? (r : Nat) : M (Option Nat) := protoAt reach r

def ownSlot? (r : Nat) (k : Key) : M (Option Slot) := slotAt reach r k

def draftOf (v : Value) : M Draft := do
  match v with
  | .object r => draftFrom reach r
  | _ => typeError "not an object"

def hasKey (r : Nat) (k : Key) : M Bool := hasAt reach r k

def getFrom (r : Nat) (k : Key) (this : Value) : M Value := getAt reach r k this

/-- Defines a property; false where that is not allowed. -/
def defineAt : Nat → Nat → Key → Draft → M Bool
  | 0, _, _, _ => rangeError "Maximum call stack size exceeded"
  | n + 1, r, k, d => do
    match ← kindOf r with
    | .proxy target handler _ _ =>
      let (t, h) ← proxyParts target handler
      match ← trapAt reach h "defineProperty" with
      | none => defineAt n t k d
      | some f => return truthy (← callOrFail f (.object h) [.object t, k.toValue, (← describeDraft d)])
    | _ => plainDefine r k d

def define (r : Nat) (k : Key) (d : Draft) : M Bool := defineAt reach r k d

def deleteAt : Nat → Nat → Key → M Bool
  | 0, _, _ => rangeError "Maximum call stack size exceeded"
  | n + 1, r, k => do
    match ← kindOf r with
    | .proxy target handler _ _ =>
      let (t, h) ← proxyParts target handler
      match ← trapAt reach h "deleteProperty" with
      | none => deleteAt n t k
      | some f => return truthy (← callOrFail f (.object h) [.object t, k.toValue])
    | _ => plainDelete r k

def deleteKey (r : Nat) (k : Key) : M Bool := deleteAt reach r k

/-- Puts a value into the object that was assigned to. -/
def putOwn (this : Value) (k : Key) (v : Value) : M Outcome := do
  match this with
  | .object t =>
    match ← ownSlot? t k with
    | some (.accessor _ _ _ _) => return .refused
    | some (.data _ false _ _) => return .readOnly
    | some _ => return if ← define t k (.ofValue v) then .done else .readOnly
    | none => return if ← define t k (.shown v) then .done else .notExtensible
  | _ => return .notObject

/-- Stores a number into an element of a view. -/
abbrev StoreElement := ViewType → Nat → Nat → Nat → Value → M Unit

/-- An assignment to an object that is no proxy; `above` goes on with what it inherits from. -/
def setPlain (above : Nat → M Outcome) (r : Nat) (k : Key) (v this : Value) : M Outcome := do
  match ← plainSlot? r k with
  | some (.data _ false _ _) => return .readOnly
  | some (.accessor _ .undefined _ _) => return .noSetter
  | some (.accessor _ s _ _) =>
    let _ ← call s this [v]
    return .done
  | some _ => putOwn this k v
  | none =>
    match (← object r).proto with
    | none => putOwn this k v
    | some p => above p

def setAt (store : StoreElement) : Nat → Nat → Key → Value → Value → M Outcome
  | 0, _, _, _, _ => rangeError "Maximum call stack size exceeded"
  | n + 1, r, k, v, this => do
    let above := fun p => setAt store n p k v this
    match ← kindOf r with
    | .proxy target handler _ _ =>
      let (t, h) ← proxyParts target handler
      match ← trapAt reach h "set" with
      | none => setAt store n t k v this
      | some f =>
        return if truthy (← callOrFail f (.object h) [.object t, k.toValue, v, this]) then .done else .refused
    | .view t buffer offset length =>
      match k.index? with
      | some i =>
        if i < length then store t buffer offset i v
        return .done
      | none => setPlain above r k v this
    | _ => setPlain above r k v this

def keysAt : Nat → Nat → M (List Key)
  | 0, _ => rangeError "Maximum call stack size exceeded"
  | n + 1, r => do
    match ← kindOf r with
    | .proxy target handler _ _ =>
      let (t, h) ← proxyParts target handler
      match ← trapAt reach h "ownKeys" with
      | none => keysAt n t
      | some f =>
        match ← callOrFail f (.object h) [.object t] with
        | .object l =>
          let length ← match ← getFrom l lengthKey (.object l) with
            | .number x => pure x.toUInt64.toNat
            | _ => pure 0
          (List.range length).mapM fun i => do
            match ← getFrom l (.ofIndex i) (.object l) with
            | .text u => return .name u
            | .symbol s => return .symbol s
            | _ => typeError "proxy: properties must be strings or symbols"
        | _ => typeError "not an object"
    | _ => plainKeys r

def ownKeys (r : Nat) : M (List Key) := keysAt reach r

def extensibleAt : Nat → Nat → M Bool
  | 0, _ => rangeError "Maximum call stack size exceeded"
  | n + 1, r => do
    let o ← object r
    match o.kind with
    | .proxy target handler _ _ =>
      let (t, h) ← proxyParts target handler
      match ← trapAt reach h "isExtensible" with
      | none => extensibleAt n t
      | some f => return truthy (← callOrFail f (.object h) [.object t])
    | _ => return o.extensible

def isExtensible (r : Nat) : M Bool := extensibleAt reach r

def closeAt : Nat → Nat → M Bool
  | 0, _ => rangeError "Maximum call stack size exceeded"
  | n + 1, r => do
    match ← kindOf r with
    | .proxy target handler _ _ =>
      let (t, h) ← proxyParts target handler
      match ← trapAt reach h "preventExtensions" with
      | none => closeAt n t
      | some f => return truthy (← callOrFail f (.object h) [.object t])
    | _ =>
      modifyObject r fun o => { o with extensible := false }
      return true

/-- Lets an object get no more properties. -/
def preventExtensions (r : Nat) : M Bool := closeAt reach r

/-- Whether `r` inherits from `target`. -/
def inherits : Nat → Option Nat → Nat → M Bool
  | 0, _, _ => return false
  | _ + 1, none, _ => return false
  | n + 1, some r, target => do
    if r == target then return true
    match ← kindOf r with
    | .proxy _ _ _ _ => return false
    | _ => inherits n (← object r).proto target

def setProtoAt : Nat → Nat → Option Nat → M Bool
  | 0, _, _ => rangeError "Maximum call stack size exceeded"
  | n + 1, r, p => do
    let o ← object r
    match o.kind with
    | .proxy target handler _ _ =>
      let (t, h) ← proxyParts target handler
      match ← trapAt reach h "setPrototypeOf" with
      | none => setProtoAt n t p
      | some f => return truthy (← callOrFail f (.object h) [.object t, protoValue p])
    | _ =>
      if o.proto == p then return true
      if !o.extensible then return false
      if ← inherits reach p r then return false
      modifyObject r fun o => { o with proto := p }
      return true

def setProto (r : Nat) (p : Option Nat) : M Bool := setProtoAt reach r p

/-- What the properties of a value that is no object come from. -/
def protoOfPrimitive? : Value → Option Intrinsic
  | .text _ => some (.proto .text)
  | .number _ => some (.proto .number)
  | .bool _ => some (.proto .bool)
  | .symbol _ => some (.proto .symbol)
  | .bigint _ => some (.proto .bigint)
  | .undefined | .null | .object _ => none

def nullishName : Value → String
  | .null => "null"
  | _ => "undefined"

/-- The property of a value. -/
def getMember (v : Value) (k : Key) : M Value := do
  match v with
  | .object r => getFrom r k v
  | .text u =>
    if k == lengthKey then return .ofNat u.size
    match k.index?.bind fun i => u[i]? with
    | some c => return .text #[c]
    | none => getFrom (Intrinsic.proto .text).ref k v
  | _ =>
    match protoOfPrimitive? v with
    | some p => getFrom p.ref k v
    | none => typeError s!"cannot read property '{← keyName k}' of {nullishName v}"

def getNamed (v : Value) (name : String) : M Value := getMember v (.ofString name)

/-- The method of a value, or nothing where there is none. -/
def method? (v : Value) (k : Key) : M (Option Value) := do
  let f ← getMember v k
  if f.isNullish then return none
  if ← isCallable f then return some f else typeError "not a function"

def invoke (v : Value) (k : Key) (args : List Value) : M Value := do
  callOrFail (← getMember v k) v args

/-- Adds a property, or fails. -/
def create (r : Nat) (k : Key) (v : Value) : M Unit := do
  if !(← define r k (.shown v)) then
    if ← isExtensible r then typeError "property is not configurable" else typeError "object is not extensible"

def defineOrFail (r : Nat) (k : Key) (d : Draft) : M Unit := do
  if !(← define r k d) then
    match ← ownSlot? r k with
    | none => typeError "object is not extensible"
    | some _ => typeError "property is not configurable"

end M
end ApiStencil.Script
