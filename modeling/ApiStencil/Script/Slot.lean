import ApiStencil.Script.Exec
/-!
The properties that an object has itself. Arrays whose elements are all ordinary keep them in a row;
any other element makes the array keep its elements among the slots.
-/
set_option autoImplicit false

namespace ApiStencil.Script

/-- A property as it is asked for: what is left out stays as it is. -/
structure Draft where
  value : Option Value
  getter : Option Value
  setter : Option Value
  writable : Option Bool
  enumerable : Option Bool
  configurable : Option Bool

namespace Draft

def empty : Draft := ⟨none, none, none, none, none, none⟩

def ofValue (v : Value) : Draft := { empty with value := some v }

/-- An ordinary property. -/
def shown (v : Value) : Draft := ⟨some v, none, none, some true, some true, some true⟩

def concealed (v : Value) : Draft := ⟨some v, none, none, some true, some false, some true⟩

def isAccessor (d : Draft) : Bool := d.getter.isSome || d.setter.isSome

def isData (d : Draft) : Bool := d.value.isSome || d.writable.isSome

def ofSlot : Slot → Draft
  | .data v w e c => ⟨some v, none, none, some w, some e, some c⟩
  | .accessor g s e c => ⟨none, some g, some s, none, some e, some c⟩
  | _ => empty

/-- The property that a draft makes where there is none. -/
def toSlot (d : Draft) : Slot :=
  if d.isAccessor then
    .accessor (d.getter.getD .undefined) (d.setter.getD .undefined) (d.enumerable.getD false)
      (d.configurable.getD false)
  else
    .data (d.value.getD .undefined) (d.writable.getD false) (d.enumerable.getD false) (d.configurable.getD false)

end Draft

namespace Slot

def enumerable : Slot → Bool
  | .data _ _ e _ => e
  | .accessor _ _ e _ => e
  | _ => false

def configurable : Slot → Bool
  | .data _ _ _ c => c
  | .accessor _ _ _ c => c
  | .instances => false
  | _ => true

/-- The property changed as a draft says. -/
def merge (old : Slot) (d : Draft) : Slot :=
  let e := d.enumerable.getD old.enumerable
  let c := d.configurable.getD old.configurable
  if d.isAccessor then
    match old with
    | .accessor g s _ _ => .accessor (d.getter.getD g) (d.setter.getD s) e c
    | _ => .accessor (d.getter.getD .undefined) (d.setter.getD .undefined) e c
  else
    match old with
    | .data v w _ _ => .data (d.value.getD v) (d.writable.getD w) e c
    | .accessor g s _ _ =>
      if d.isData then .data (d.value.getD .undefined) (d.writable.getD false) e c else .accessor g s e c
    | other => other

end Slot

/-- Same value, with zeros of different signs told apart and a value that is no number equal to
itself. -/
def sameValue : Value → Value → Bool
  | .undefined, .undefined => true
  | .null, .null => true
  | .bool a, .bool b => a == b
  | .number a, .number b => if a.isNaN then b.isNaN else a == b && (a != 0.0 || a.toBits == b.toBits)
  | .text a, .text b => a == b
  | .symbol a, .symbol b => a == b
  | .bigint a, .bigint b => a == b
  | .object a, .object b => a == b
  | _, _ => false

/-- Like `sameValue`, with one zero. -/
def sameValueZero : Value → Value → Bool
  | .number a, .number b => if a.isNaN then b.isNaN else a == b
  | a, b => sameValue a b

/-- Whether a property that cannot be configured may be changed like this. -/
def mayChange (old : Slot) (d : Draft) : Bool :=
  old.configurable ||
    (d.configurable != some true && d.enumerable.all (· == old.enumerable) &&
      match old with
      | .data v w _ _ =>
        !d.isAccessor && (w || (d.writable != some true && d.value.all (sameValue v)))
      | .accessor g s _ _ => !d.isData && d.getter.all (sameValue g) && d.setter.all (sameValue s)
      | _ => true)

namespace M

/-- A function of the library. -/
def newNative (id : Nat) (data : List Value) (name : Units) (arity : Nat) : M Value := do
  let r ← newObject
    ⟨some (Intrinsic.proto .function).ref, true, .native id data,
      #[(.ofString "length", .data (.ofNat arity) false false true), (.ofString "name", .data (.text name) false false true)]⟩
  return .object r

/-- Looking through many slots takes the time of many steps. -/
def spendOnSlots (o : Obj) : M Unit := do
  if o.slots.size > 64 then spend (o.slots.size / 64)

def setSlotAt (r i : Nat) (k : Key) (s : Slot) : M Unit :=
  modifyObject r fun o => { o with slots := o.slots.setIfInBounds i (k, s) }

/-- The object that instances of `r` inherit from, when it is first asked for. -/
def newInstances (r : Nat) (kind : Kind) : M Value := do
  match kind with
  | .closure c =>
    if c.code.isGenerator then
      let home := if c.code.isAsync then Fixture.asyncGenerator else .generator
      return .object (← newObject ⟨some (Intrinsic.fixture home).ref, true, .plain, #[]⟩)
    else pure ()
  | _ => pure ()
  return .object (← newObject
    ⟨some (Intrinsic.proto .object).ref, true, .plain, #[(.ofString "constructor", concealed (.object r))]⟩)

/-- A property of the library is made when it is first asked for. -/
def madeSlot (r i : Nat) (k : Key) (s : Slot) : M Slot := do
  match s with
  | .builtin id name arity listed =>
    let f ← newNative id [] name arity
    let made := Slot.data f true listed true
    setSlotAt r i k made
    return made
  | .builtinPair getter setter name =>
    let g ← newNative getter [] (txt "get " ++ name) 0
    let t ← match setter with
      | some id => newNative id [] (txt "set " ++ name) 1
      | none => pure .undefined
    let made := Slot.accessor g t false true
    setSlotAt r i k made
    return made
  | .instances =>
    let v ← newInstances r (← kindOf r)
    let made := Slot.data v true false false
    setSlotAt r i k made
    return made
  | s => return s

def lengthKey : Key := .ofString "length"

/-- The unsigned number in the bytes of a view, lowest first. -/
def littleEndian (bs : List UInt8) : Nat := bs.foldr (fun b n => b.toNat + 256 * n) 0

def signed (bits n : Nat) : Int := if n < Nat.pow 2 (bits - 1) then n else (n : Int) - Int.pow 2 bits

def floatOfSingle (n : Nat) : Float := (Float32.ofBits n.toUInt32).toFloat

def readBytes (t : ViewType) (bs : List UInt8) : Value :=
  let n := littleEndian bs
  match t with
  | .int8 => .ofInt (signed 8 n)
  | .uint8 | .uint8Clamped | .uint16 | .uint32 => .ofNat n
  | .int16 => .ofInt (signed 16 n)
  | .int32 => .ofInt (signed 32 n)
  | .bigInt64 => .bigint (signed 64 n)
  | .bigUint64 => .bigint n
  | .float32 => .number (floatOfSingle n)
  | .float64 => .number (Float.ofBits n.toUInt64)

def viewElement? (t : ViewType) (buffer offset length i : Nat) : M (Option Value) := do
  if length ≤ i then return none
  match ← kindOf buffer with
  | .buffer bytes =>
    let lo := offset + i * t.width
    return some (readBytes t (bytes.extract lo (lo + t.width)).toList)
  | _ => return none

/-- The slot of an object under a key, which is made now if it has not been asked for before. -/
def heldSlot? (r : Nat) (o : Obj) (k : Key) : M (Option Slot) := do
  spendOnSlots o
  match o.slot? k with
  | some (i, s) => return some (← madeSlot r i k s)
  | none => return none

/-- The property of an object under a key, not asking a handler or those it inherits from. -/
def plainSlot? (r : Nat) (k : Key) : M (Option Slot) := do
  let o ← object r
  match o.kind with
  | .array items =>
    if k == lengthKey then return some (.data (.ofNat items.size) true false false)
    match k.index? with
    | some i =>
      match items[i]? with
      | some v => return some (shown v)
      | none => return none
    | none => heldSlot? r o k
  | .sparse n fixed =>
    if k == lengthKey then return some (.data (.ofNat n) (!fixed) false false) else heldSlot? r o k
  | .text u =>
    if k == lengthKey then return some (.data (.ofNat u.size) false false false)
    match k.index?.bind fun i => u[i]? with
    | some c => return some (.data (.text #[c]) false true false)
    | none => heldSlot? r o k
  | .view t buffer offset length =>
    match k.index? with
    | some i => return (← viewElement? t buffer offset length i).map shown
    | none => heldSlot? r o k
  | _ => heldSlot? r o k

/-- An array with its elements among the slots. -/
def toSparse (r : Nat) : M Unit :=
  modifyObject r fun o =>
    match o.kind with
    | .array items =>
      let elements := items.toList.zipIdx.map fun (v, i) => (Key.ofIndex i, shown v)
      { o with kind := .sparse items.size false, slots := elements.toArray ++ o.slots }
    | _ => o

def addSlot (r : Nat) (k : Key) (s : Slot) : M Unit :=
  modifyObject r fun o => { o with slots := o.slots.push (k, s) }

def removeSlot (r : Nat) (k : Key) : M Unit :=
  modifyObject r fun o => { o with slots := o.slots.filter fun x => x.1 != k }

/-- Changes or adds a slot; false where that is not allowed. -/
def defineSlot (r : Nat) (k : Key) (d : Draft) : M Bool := do
  let o ← object r
  match o.slot? k with
  | none =>
    if !o.extensible then return false
    addSlot r k d.toSlot
    return true
  | some (i, s) =>
    let s ← madeSlot r i k s
    if !mayChange s d then return false
    setSlotAt r i k (s.merge d)
    return true

def isPlainElement : Slot → Bool
  | .data _ true true true => true
  | _ => false

def valueOf : Slot → Value
  | .data v _ _ _ => v
  | _ => .undefined

/-- Takes elements off the end of an array down to `n`; stops at one that cannot go. -/
def shrinkSparse (r n : Nat) : M Bool := do
  let o ← object r
  let tops := o.slots.toList.filterMap fun (k, s) =>
    match k.index? with
    | some i => if n ≤ i && !s.configurable then some (i + 1) else none
    | none => none
  let stop := tops.foldl max n
  modifyObject r fun o =>
    { o with
      slots := o.slots.filter fun x => match x.1.index? with
        | some i => i < stop
        | none => true
      kind := match o.kind with
        | .sparse _ fixed => .sparse stop fixed
        | k => k }
  return stop == n

/-- Gives an array another length. -/
def resize (r n : Nat) : M Bool := do
  match ← kindOf r with
  | .array items =>
    if n == items.size then return true
    else if n < items.size then
      setKind r (.array (items.take n))
      return true
    else
      toSparse r
      setKind r (.sparse n false)
      return true
  | .sparse old fixed =>
    if n == old then return true
    else if fixed then return false
    else if old < n then
      setKind r (.sparse n false)
      return true
    else shrinkSparse r n
  | _ => return false

/-- The length that a draft asks for; a value that is no length is refused. -/
def draftLength (d : Draft) : M (Option Nat) := do
  match d.value with
  | none => return none
  | some (.number x) =>
    if 0.0 ≤ x && x < 4294967296.0 && x.floor == x then return some x.toUInt64.toNat
    else rangeError "invalid array length"
  | some _ => rangeError "invalid array length"

def defineLength (r : Nat) (d : Draft) : M Bool := do
  let length ← draftLength d
  if d.configurable == some true || d.enumerable == some true || d.isAccessor then return false
  let ok ← match length with
    | some n => resize r n
    | none => pure true
  if d.writable == some false then
    toSparse r
    modifyObject r fun o =>
      match o.kind with
      | .sparse n _ => { o with kind := .sparse n true }
      | _ => o
  else if d.writable == some true then
    match ← kindOf r with
    | .sparse _ true => return false
    | _ => return ok
  return ok

/-- Defines an element of an array that keeps its elements among the slots. -/
def defineSparse (r i : Nat) (k : Key) (d : Draft) : M Bool := do
  match ← kindOf r with
  | .sparse n fixed =>
    if n ≤ i && fixed then return false
    let ok ← defineSlot r k d
    if ok && n ≤ i then setKind r (.sparse (i + 1) fixed)
    return ok
  | _ => return false

def writeView (t : ViewType) (buffer offset i : Nat) (bytes : List UInt8) : M Unit := do
  match ← kindOf buffer with
  | .buffer old =>
    let lo := offset + i * t.width
    let new := bytes.zipIdx.foldl (fun (acc : Array UInt8) (b, j) => acc.setIfInBounds (lo + j) b) old
    setKind buffer (.buffer new)
  | _ => return ()

/-- Defines a property of an object without asking a handler; false where that is not allowed. -/
def plainDefine (r : Nat) (k : Key) (d : Draft) : M Bool := do
  let o ← object r
  match o.kind with
  | .array items =>
    if k == lengthKey then defineLength r d
    else
      match k.index? with
      | none => defineSlot r k d
      | some i =>
        match items[i]? with
        | some old =>
          let new := (shown old).merge d
          if isPlainElement new then
            modifyObject r fun o =>
              match o.kind with
              | .array items => { o with kind := .array (items.setIfInBounds i (valueOf new)) }
              | _ => o
            return true
          else
            toSparse r
            defineSparse r i k d
        | none =>
          if !o.extensible then return false
          else if i == items.size && isPlainElement d.toSlot then
            modifyObject r fun o =>
              match o.kind with
              | .array items => { o with kind := .array (items.push (valueOf d.toSlot)) }
              | _ => o
            return true
          else
            toSparse r
            defineSparse r i k d
  | .sparse _ _ =>
    if k == lengthKey then defineLength r d
    else
      match k.index? with
      | some i => defineSparse r i k d
      | none => defineSlot r k d
  | .text u =>
    match k.index? with
    | some i => if i < u.size then return false else defineSlot r k d
    | none => if k == lengthKey then return false else defineSlot r k d
  | _ => defineSlot r k d

/-- Removes a property of an object without asking a handler; false where it cannot go. -/
def plainDelete (r : Nat) (k : Key) : M Bool := do
  match ← plainSlot? r k with
  | none => return true
  | some s =>
    if !s.configurable then return false
    match ← kindOf r, k.index? with
    | .array _, some _ =>
      toSparse r
      removeSlot r k
      return true
    | .view _ _ _ _, some _ => return false
    | _, _ =>
      removeSlot r k
      return true

/-- Names that are places in an array, in ascending order; then all other names, then symbols. -/
def sortKeys (ks : List Key) : List Key :=
  let places := ks.filterMap Key.index?
  let names := ks.filter fun k => match k with
    | .name _ => k.index?.isNone
    | .symbol _ => false
  let symbols := ks.filter fun k => match k with
    | .name _ => false
    | .symbol _ => true
  (places.mergeSort (· ≤ ·)).map Key.ofIndex ++ names ++ symbols

/-- The keys of an object without asking a handler. -/
def plainKeys (r : Nat) : M (List Key) := do
  let o ← object r
  let own ← o.slots.toList.filterM fun (k, _) => do
    match k with
    | .symbol n => return !(← isHidden n)
    | .name _ => return true
  let own := own.map (·.1)
  match o.kind with
  | .array items => return (List.range items.size).map Key.ofIndex ++ lengthKey :: sortKeys own
  | .sparse _ _ =>
    let sorted := sortKeys own
    return sorted.filter (·.index?.isSome) ++ lengthKey :: sorted.filter (·.index?.isNone)
  | .text u => return (List.range u.size).map Key.ofIndex ++ lengthKey :: sortKeys own
  | .view _ _ _ n => return (List.range n).map Key.ofIndex ++ sortKeys own
  | _ => return sortKeys own

end M
end ApiStencil.Script
