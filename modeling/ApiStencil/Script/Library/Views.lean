import ApiStencil.Script.Library.Arrays
/-!
Bytes, and views of them as numbers of a fixed width. What views share with arrays, arrays lend them.
-/
set_option autoImplicit false

namespace ApiStencil.Script.Library.Views
open M

def proto : Intrinsic := .proto .anyView

def maxBytes : Nat := 1073741824

def zeroBytes (n : Nat) : M (Array UInt8) := do
  if n > maxBytes then rangeError "invalid array buffer length"
  return .replicate n 0

/-- A length given as a value. -/
def sizeArg (v : Value) : M Nat := do
  let x ← toInteger v
  if 0.0 ≤ x && x ≤ 9007199254740991.0 then return x.toUInt64.toNat else rangeError "invalid array index"

def makeBuffer (c : Call) : M Value := do
  needNew c
  let n ← sizeArg (c.arg 0)
  return .object (← newInstance c .buffer (.buffer (← zeroBytes n)))

def bufferOf (v : Value) : M (Nat × Array UInt8) := do
  match v with
  | .object r =>
    match ← kindOf r with
    | .buffer bytes => return (r, bytes)
    | _ => typeError "not an ArrayBuffer"
  | _ => typeError "not an object"

def sliceBuffer (c : Call) : M Value := do
  let (_, bytes) ← bufferOf c.this
  let lo ← toPlace (c.arg 0) bytes.size 0
  let hi ← toPlace (c.arg 1) bytes.size bytes.size
  return .object (← newPlain (.proto .buffer) (.buffer (bytes.extract lo hi)))

/-- A view of bytes: how they are read, where they are, where it begins and how many items it has. -/
structure View where
  ref : Nat
  type : ViewType
  buffer : Nat
  offset : Nat
  length : Nat

def viewOf (v : Value) : M View := do
  match v with
  | .object r =>
    match ← kindOf r with
    | .view type buffer offset length => return ⟨r, type, buffer, offset, length⟩
    | _ => typeError "not a TypedArray"
  | _ => typeError "not a TypedArray"

/-- A new view with items of its own. -/
def newView (t : ViewType) (items : List Value) : M Value := do
  let buffer ← newPlain (.proto .buffer) (.buffer (← zeroBytes (items.length * t.width)))
  for (v, i) in items.zipIdx do
    storeElement t buffer 0 i v
  return .object (← newPlain (.proto (.view t)) (.view t buffer 0 items.length))

/-- The items that a value gives: those of an iterable, or those of an object with a length. -/
def itemsFrom (v : Value) : M (List Value) := do
  match ← method? v KnownSymbol.iterator.key with
  | some f => return (← collect (← iterateBy v f) maxItems #[]).toList
  | none => itemsOf v

def make (t : ViewType) (c : Call) : M Value := do
  needNew c
  let fresh := fun (items : List Value) => do
    let buffer ← newPlain (.proto .buffer) (.buffer (← zeroBytes (items.length * t.width)))
    for (v, i) in items.zipIdx do
      storeElement t buffer 0 i v
    return Value.object (← newInstance c (.view t) (.view t buffer 0 items.length))
  match c.arg 0 with
  | .object r =>
    match ← kindOf r with
    | .buffer bytes =>
      let offset ← sizeArg (c.arg 1)
      if offset % t.width != 0 || offset > bytes.size then rangeError "invalid offset"
      let length ← match c.arg 2 with
        | .undefined =>
          if (bytes.size - offset) % t.width != 0 then rangeError "invalid length"
          pure ((bytes.size - offset) / t.width)
        | v => sizeArg v
      if offset + length * t.width > bytes.size then rangeError "invalid length"
      return .object (← newInstance c (.view t) (.view t r offset length))
    | _ => fresh (← itemsFrom (c.arg 0))
  | v =>
    let n ← sizeArg v
    let buffer ← newPlain (.proto .buffer) (.buffer (← zeroBytes (n * t.width)))
    return .object (← newInstance c (.view t) (.view t buffer 0 n))

def items (v : View) : M (List Value) := do
  (List.range v.length).mapM fun i => getMember (.object v.ref) (.ofIndex i)

def mapItems (c : Call) : M Value := do
  let v ← viewOf c.this
  needFunction (c.arg 0)
  let new ← (← items v).zipIdx.mapM fun (x, i) => call (c.arg 0) (c.arg 1) [x, .ofNat i, c.this]
  newView v.type new

def filterItems (c : Call) : M Value := do
  let v ← viewOf c.this
  needFunction (c.arg 0)
  let kept ← (← items v).zipIdx.filterM fun (x, i) => do
    return truthy (← call (c.arg 0) (c.arg 1) [x, .ofNat i, c.this])
  newView v.type (kept.map (·.1))

def slice (c : Call) : M Value := do
  let v ← viewOf c.this
  let lo ← toPlace (c.arg 0) v.length 0
  let hi ← toPlace (c.arg 1) v.length v.length
  newView v.type (((← items v).drop lo).take (hi - lo))

def subarray (c : Call) : M Value := do
  let v ← viewOf c.this
  let lo ← toPlace (c.arg 0) v.length 0
  let hi ← toPlace (c.arg 1) v.length v.length
  return .object (← newPlain (.proto (.view v.type)) (.view v.type v.buffer (v.offset + lo * v.type.width) (hi - lo)))

def set (c : Call) : M Value := do
  let v ← viewOf c.this
  let offset ← sizeArg (c.arg 1)
  let new ← itemsOf (.object (← toObject (c.arg 0)))
  if offset + new.length > v.length then rangeError "invalid array length"
  for (x, i) in new.zipIdx do
    storeElement v.type v.buffer v.offset (offset + i) x
  undefined

/-- Numbers in order; a function may decide. -/
def ordered (compare : Value) (xs : List Value) : M (List Value) := do
  match compare with
  | .undefined => sortBy (fun a b => do return (← compareValues a b) == some .gt) 64 xs
  | f =>
    needFunction f
    sortBy (comesAfter f) 64 xs

def sort (c : Call) : M Value := do
  let v ← viewOf c.this
  for (x, i) in (← ordered (c.arg 0) (← items v)).zipIdx do
    storeElement v.type v.buffer v.offset i x
  return c.this

def with_ (c : Call) : M Value := do
  let v ← viewOf c.this
  let x ← toInteger (c.arg 0)
  let i := if x < 0.0 then x + Float.ofNat v.length else x
  if 0.0 ≤ i && i < Float.ofNat v.length then newView v.type ((← items v).set i.toUInt64.toNat (c.arg 1))
  else rangeError "invalid array index"

def ofStatic (c : Call) : M Value := do
  needConstructor c.this
  construct c.this [← newList c.args] c.this

def fromStatic (c : Call) : M Value := do
  needConstructor c.this
  let new ← Arrays.mapped (c.arg 1) (c.arg 2) (← itemsFrom (c.arg 0))
  construct c.this [← newList new] c.this

def tag (c : Call) : M Value := do
  match ← kind? c.this with
  | some (.view t _ _ _) => return .ofString t.name
  | _ => undefined

def makeDataView (c : Call) : M Value := do
  needNew c
  let (r, bytes) ← bufferOf (c.arg 0)
  let offset ← sizeArg (c.arg 1)
  if offset > bytes.size then rangeError "invalid byteOffset"
  let length ← match c.arg 2 with
    | .undefined => pure (bytes.size - offset)
    | v => sizeArg v
  if offset + length > bytes.size then rangeError "invalid byteLength"
  return .object (← newInstance c .dataView (.dataView r offset length))

def dataViewOf (v : Value) : M (Nat × Nat × Nat) := do
  match ← kind? v with
  | some (.dataView buffer offset length) => return (buffer, offset, length)
  | _ => typeError "not a DataView"

/-- The place of an item in the bytes of its buffer. -/
def itemPlace (t : ViewType) (c : Call) : M (Nat × Nat) := do
  let (buffer, offset, length) ← dataViewOf c.this
  let i ← sizeArg (c.arg 0)
  if i + t.width > length then rangeError "out of bound"
  return (buffer, offset + i)

/-- Reads an item, its highest byte first unless `little` says otherwise. -/
def getItem (t : ViewType) (c : Call) : M Value := do
  let (buffer, place) ← itemPlace t c
  let (_, bytes) ← bufferOf (.object buffer)
  let found := (bytes.extract place (place + t.width)).toList
  return readBytes t (if truthy (c.arg 1) then found else found.reverse)

def setItem (t : ViewType) (c : Call) : M Value := do
  let (buffer, place) ← itemPlace t c
  let bytes ← elementBytes t (c.arg 1)
  writeView .uint8 buffer place 0 (if truthy (c.arg 2) then bytes else bytes.reverse)
  undefined

def dataViewRows : List Native :=
  let home := Intrinsic.proto .dataView
  let types := ViewType.all.filter (· != .uint8Clamped)
  let short := fun (t : ViewType) => String.ofList (t.name.toList.take (t.name.length - 5))
  [.maker .dataView 1 makeDataView,
    .getter home "buffer" (fun c => do return .object (← dataViewOf c.this).1),
    .getter home "byteOffset" (fun c => do return .ofNat (← dataViewOf c.this).2.1),
    .getter home "byteLength" (fun c => do return .ofNat (← dataViewOf c.this).2.2)] ++
  types.map (fun t => .method home ("get" ++ short t) 1 (getItem t)) ++
  types.map fun t => .method home ("set" ++ short t) 2 (setItem t)

/-- What arrays lend to views. -/
def lent : List String :=
  ["at", "every", "some", "forEach", "reduce", "reduceRight", "fill", "find", "findIndex", "findLast",
    "findLastIndex", "indexOf", "lastIndexOf", "includes", "join", "reverse", "copyWithin", "values", "keys",
    "entries", "toString", "toLocaleString"]

def lentRows : List Native :=
  Arrays.rows.filterMap fun n =>
    match n.key, n.role, decide (n.home = Arrays.proto) with
    | .name u, .method, true =>
      if lent.contains u.toText then
        some { n with home := proto, run := fun c => do
          let _ ← viewOf c.this
          n.run c }
      else none
    | _, _, _ => none

def rows : List Native :=
  [.maker .buffer 1 makeBuffer,
    .method (.maker .buffer) "isView" 1 (fun c => do
      match ← kind? (c.arg 0) with
      | some (.view _ _ _ _) => boolean true
      | _ => boolean false),
    .getter (.proto .buffer) "byteLength" (fun c => do return .ofNat (← bufferOf c.this).2.size),
    .method (.proto .buffer) "slice" 2 sliceBuffer,
    .maker .anyView 0 (fun _ => typeError "cannot be called"), .method (.maker .anyView) "from" 1 fromStatic,
    .method (.maker .anyView) "of" 0 ofStatic, .symbolGetter (.maker .anyView) .species (fun c => return c.this),
    .getter proto "length" (fun c => do return .ofNat (← viewOf c.this).length),
    .getter proto "buffer" (fun c => do return .object (← viewOf c.this).buffer),
    .getter proto "byteLength" (fun c => do
      let v ← viewOf c.this
      return .ofNat (v.length * v.type.width)),
    .getter proto "byteOffset" (fun c => do return .ofNat (← viewOf c.this).offset),
    .symbolGetter proto .toStringTag tag, .method proto "map" 1 mapItems, .method proto "filter" 1 filterItems,
    .method proto "slice" 2 slice, .method proto "subarray" 2 subarray, .method proto "set" 1 set,
    .method proto "sort" 1 sort, .method proto "with" 2 with_,
    .method proto "toReversed" 0 (fun c => do
      let v ← viewOf c.this
      newView v.type (← items v).reverse),
    .method proto "toSorted" 1 (fun c => do
      let v ← viewOf c.this
      newView v.type (← ordered (c.arg 0) (← items v))),
    .symbolMethod proto .iterator 0 (Arrays.walk .values)] ++
  ViewType.all.map (fun t => .maker (.view t) 3 (make t)) ++ dataViewRows ++ lentRows

end ApiStencil.Script.Library.Views
