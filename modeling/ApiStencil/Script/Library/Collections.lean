import ApiStencil.Script.Library.Objects
/-!
Maps and sets, which keep their entries in the order of their insertion. An entry that is removed
leaves a gap, so that iterators keep their place.
-/
set_option autoImplicit false

namespace ApiStencil.Script.Library.Collections
open M

/-- Negative zero is not told apart from zero. -/
def entryKey (v : Value) : Value :=
  match v with
  | .number x => .number (x + 0.0)
  | v => v

abbrev MapEntries := Array (Option (Value × Value))

def mapOf (v : Value) : M (Nat × MapEntries) := do
  match v with
  | .object r =>
    match ← kindOf r with
    | .map entries => return (r, entries)
    | _ => typeError "Map object expected"
  | _ => typeError "not an object"

def setOf (v : Value) : M (Nat × Array (Option Value)) := do
  match v with
  | .object r =>
    match ← kindOf r with
    | .set entries => return (r, entries)
    | _ => typeError "Set object expected"
  | _ => typeError "not an object"

def mapIndex? (entries : MapEntries) (k : Value) : Option Nat :=
  entries.findIdx? fun e => e.any fun e => sameValueZero e.1 k

def setIndex? (entries : Array (Option Value)) (k : Value) : Option Nat :=
  entries.findIdx? fun e => e.any fun e => sameValueZero e k

def putEntry (r : Nat) (k v : Value) : M Unit := do
  match ← kindOf r with
  | .map entries =>
    match mapIndex? entries k with
    | some i => setKind r (.map (entries.setIfInBounds i (some (entryKey k, v))))
    | none => setKind r (.map (entries.push (some (entryKey k, v))))
  | _ => return ()

def addEntry (r : Nat) (k : Value) : M Unit := do
  match ← kindOf r with
  | .set entries =>
    if (setIndex? entries k).isNone then setKind r (.set (entries.push (some (entryKey k))))
  | _ => return ()

/-- Fills a new collection with what an iterable gives, by the method that adds to it. -/
def fillBy (r : Nat) (method : String) (source : Value) (pairs : Bool) : M Unit := do
  if source.isNullish then return ()
  let adder ← getNamed (.object r) method
  needFunction adder
  let it ← iterate source
  forEachOf it (fun v => do
    if pairs then
      if !v.isObject then typeError "not an object"
      let k ← getMember v (.ofIndex 0)
      let w ← getMember v (.ofIndex 1)
      let _ ← call adder (.object r) [k, w]
    else
      let _ ← call adder (.object r) [v]) maxItems

def makeMap (c : Call) : M Value := do
  needNew c
  let r ← newInstance c .map (.map #[])
  fillBy r "set" (c.arg 0) true
  return .object r

def makeSet (c : Call) : M Value := do
  needNew c
  let r ← newInstance c .set (.set #[])
  fillBy r "add" (c.arg 0) false
  return .object r

def mapGet (c : Call) : M Value := do
  let (_, entries) ← mapOf c.this
  match (mapIndex? entries (c.arg 0)).bind fun i => (entries[i]?).join with
  | some (_, v) => return v
  | none => undefined

def mapSet (c : Call) : M Value := do
  let (r, _) ← mapOf c.this
  putEntry r (c.arg 0) (c.arg 1)
  return c.this

def mapDelete (c : Call) : M Value := do
  let (r, entries) ← mapOf c.this
  match mapIndex? entries (c.arg 0) with
  | some i =>
    setKind r (.map (entries.setIfInBounds i none))
    boolean true
  | none => boolean false

def mapClear (c : Call) : M Value := do
  let (r, entries) ← mapOf c.this
  setKind r (.map (entries.map fun _ => none))
  undefined

def count {α : Type} (entries : Array (Option α)) : Nat := (entries.filter Option.isSome).size

/-- Does `f` to each entry from a place on, also to those added on the way. -/
def eachFrom (next : Nat → M (Option (Nat × Value × Value))) (f : Value → Value → M Unit) : Nat → Nat → M Unit
  | 0, _ => return ()
  | n + 1, place => do
    match ← next place with
    | none => return ()
    | some (i, k, v) =>
      f k v
      eachFrom next f n (i + 1)

def mapForEach (c : Call) : M Value := do
  let (r, _) ← mapOf c.this
  needFunction (c.arg 0)
  let next := fun place => do
    match ← kindOf r with
    | .map entries => return (entryFrom entries place).map fun (i, k, v) => (i, k, v)
    | _ => return none
  eachFrom next (fun k v => do
    let _ ← call (c.arg 0) (c.arg 1) [v, k, c.this]) maxItems 0
  undefined

def setForEach (c : Call) : M Value := do
  let (r, _) ← setOf c.this
  needFunction (c.arg 0)
  let next := fun place => do
    match ← kindOf r with
    | .set entries => return (entryFrom entries place).map fun (i, k) => (i, k, k)
    | _ => return none
  eachFrom next (fun k v => do
    let _ ← call (c.arg 0) (c.arg 1) [v, k, c.this]) maxItems 0
  undefined

def mapWalk (side : WalkOver) (c : Call) : M Value := do
  let (r, _) ← mapOf c.this
  return .object (← newPlain (.fixture .mapWalk) (.walk (.map (some r) 0 side)))

def setAdd (c : Call) : M Value := do
  let (r, _) ← setOf c.this
  addEntry r (c.arg 0)
  return c.this

def setDelete (c : Call) : M Value := do
  let (r, entries) ← setOf c.this
  match setIndex? entries (c.arg 0) with
  | some i =>
    setKind r (.set (entries.setIfInBounds i none))
    boolean true
  | none => boolean false

def setClear (c : Call) : M Value := do
  let (r, entries) ← setOf c.this
  setKind r (.set (entries.map fun _ => none))
  undefined

def setWalk (side : WalkOver) (c : Call) : M Value := do
  let (r, _) ← setOf c.this
  return .object (← newPlain (.fixture .setWalk) (.walk (.set (some r) 0 side)))

/-- The values of another collection, and whether it holds a value. -/
structure Other where
  values : M (Array Value)
  holds : Value → M Bool

def otherOf (v : Value) : M Other := do
  if !v.isObject then typeError "not an object"
  let size ← toNumber (← getNamed v "size")
  if size.isNaN then typeError ".size is not a number"
  let has ← getNamed v "has"
  if !(← isCallable has) then typeError ".has is not a function"
  let keys ← getNamed v "keys"
  if !(← isCallable keys) then typeError ".keys is not a function"
  return ⟨do collect (← iterateBy v keys) maxItems #[], fun x => do return truthy (← call has v [x])⟩

def members (entries : Array (Option Value)) : List Value := entries.toList.filterMap id

def newSet (values : List Value) : M Value := do
  let r ← newPlain (.proto .set) (.set #[])
  for v in values do
    addEntry r v
  return .object r

def contains (values : List Value) (v : Value) : Bool := values.any (sameValueZero v)

def union (c : Call) : M Value := do
  let (_, entries) ← setOf c.this
  let other ← otherOf (c.arg 0)
  newSet (members entries ++ (← other.values).toList)

def intersection (c : Call) : M Value := do
  let (_, entries) ← setOf c.this
  let other ← otherOf (c.arg 0)
  newSet (← (members entries).filterM other.holds)

def difference (c : Call) : M Value := do
  let (_, entries) ← setOf c.this
  let other ← otherOf (c.arg 0)
  newSet (← (members entries).filterM fun v => do return !(← other.holds v))

def symmetricDifference (c : Call) : M Value := do
  let (_, entries) ← setOf c.this
  let mine := members entries
  let theirs := (← (← otherOf (c.arg 0)).values).toList
  newSet (mine.filter (fun v => !contains theirs v) ++ theirs.filter fun v => !contains mine v)

def isSubsetOf (c : Call) : M Value := do
  let (_, entries) ← setOf c.this
  let other ← otherOf (c.arg 0)
  boolean ((← (members entries).filterM fun v => do return !(← other.holds v)).isEmpty)

def isSupersetOf (c : Call) : M Value := do
  let (_, entries) ← setOf c.this
  let theirs := (← (← otherOf (c.arg 0)).values).toList
  boolean (theirs.all (contains (members entries)))

def isDisjointFrom (c : Call) : M Value := do
  let (_, entries) ← setOf c.this
  let other ← otherOf (c.arg 0)
  boolean ((← (members entries).filterM other.holds).isEmpty)

def mapGroupBy (c : Call) : M Value := do
  let groups ← Objects.grouped (c.arg 0) (c.arg 1) fun v => return entryKey v
  let r ← newPlain (.proto .map) (.map #[])
  for (k, vs) in groups do
    putEntry r k (← newList vs)
  return .object r

def weakKey (v : Value) : M Unit := do
  match v with
  | .object _ | .symbol _ => return ()
  | _ => typeError "invalid value used as WeakMap key"

def weakMapOf (v : Value) : M (Nat × List (Value × Value)) := do
  match v with
  | .object r =>
    match ← kindOf r with
    | .weakMap entries => return (r, entries)
    | _ => typeError "WeakMap object expected"
  | _ => typeError "not an object"

def weakSetOf (v : Value) : M (Nat × List Value) := do
  match v with
  | .object r =>
    match ← kindOf r with
    | .weakSet entries => return (r, entries)
    | _ => typeError "WeakSet object expected"
  | _ => typeError "not an object"

def makeWeak (family : Family) (kind : Kind) (method : String) (pairs : Bool) (c : Call) : M Value := do
  needNew c
  let r ← newInstance c family kind
  fillBy r method (c.arg 0) pairs
  return .object r

def weakMapGet (c : Call) : M Value := do
  let (_, entries) ← weakMapOf c.this
  return ((entries.find? fun e => sameValue e.1 (c.arg 0)).map (·.2)).getD .undefined

def weakMapSet (c : Call) : M Value := do
  let (r, entries) ← weakMapOf c.this
  weakKey (c.arg 0)
  setKind r (.weakMap ((c.arg 0, c.arg 1) :: entries.filter fun e => !sameValue e.1 (c.arg 0)))
  return c.this

def weakMapDelete (c : Call) : M Value := do
  let (r, entries) ← weakMapOf c.this
  setKind r (.weakMap (entries.filter fun e => !sameValue e.1 (c.arg 0)))
  boolean (entries.any fun e => sameValue e.1 (c.arg 0))

def weakSetAdd (c : Call) : M Value := do
  let (r, entries) ← weakSetOf c.this
  weakKey (c.arg 0)
  setKind r (.weakSet (c.arg 0 :: entries.filter fun e => !sameValue e (c.arg 0)))
  return c.this

def weakSetDelete (c : Call) : M Value := do
  let (r, entries) ← weakSetOf c.this
  setKind r (.weakSet (entries.filter fun e => !sameValue e (c.arg 0)))
  boolean (entries.any (sameValue (c.arg 0)))

def makeWeakRef (c : Call) : M Value := do
  needNew c
  weakKey (c.arg 0)
  return .object (← newInstance c .weakRef (.weakRef (c.arg 0)))

def deref (c : Call) : M Value := do
  match ← kind? c.this with
  | some (.weakRef v) => return v
  | _ => typeError "WeakRef object expected"

def map : Intrinsic := .proto .map

def set : Intrinsic := .proto .set

def rows : List Native :=
  [.maker .map 0 makeMap, .symbolGetter (.maker .map) .species (fun c => return c.this),
    .method (.maker .map) "groupBy" 2 mapGroupBy, .method map "set" 2 mapSet, .method map "get" 1 mapGet,
    .method map "has" 1 (fun c => do boolean (mapIndex? (← mapOf c.this).2 (c.arg 0)).isSome),
    .method map "delete" 1 mapDelete, .method map "clear" 0 mapClear,
    .getter map "size" (fun c => do return .ofNat (count (← mapOf c.this).2)), .method map "forEach" 1 mapForEach,
    .method map "values" 0 (mapWalk .values), .method map "keys" 0 (mapWalk .keys),
    .method map "entries" 0 (mapWalk .entries), .symbolMethod map .iterator 0 (mapWalk .entries),
    .maker .set 0 makeSet, .symbolGetter (.maker .set) .species (fun c => return c.this),
    .method set "add" 1 setAdd,
    .method set "has" 1 (fun c => do boolean (setIndex? (← setOf c.this).2 (c.arg 0)).isSome),
    .method set "delete" 1 setDelete, .method set "clear" 0 setClear,
    .getter set "size" (fun c => do return .ofNat (count (← setOf c.this).2)), .method set "forEach" 1 setForEach,
    .method set "isDisjointFrom" 1 isDisjointFrom, .method set "isSubsetOf" 1 isSubsetOf,
    .method set "isSupersetOf" 1 isSupersetOf, .method set "intersection" 1 intersection,
    .method set "difference" 1 difference, .method set "symmetricDifference" 1 symmetricDifference,
    .method set "union" 1 union, .method set "values" 0 (setWalk .values), .method set "keys" 0 (setWalk .values),
    .method set "entries" 0 (setWalk .entries), .symbolMethod set .iterator 0 (setWalk .values),
    .maker .weakMap 0 (makeWeak .weakMap (.weakMap []) "set" true), .method (.proto .weakMap) "set" 2 weakMapSet,
    .method (.proto .weakMap) "get" 1 weakMapGet,
    .method (.proto .weakMap) "has" 1 (fun c => do
      boolean ((← weakMapOf c.this).2.any fun e => sameValue e.1 (c.arg 0))),
    .method (.proto .weakMap) "delete" 1 weakMapDelete,
    .maker .weakSet 0 (makeWeak .weakSet (.weakSet []) "add" false), .method (.proto .weakSet) "add" 1 weakSetAdd,
    .method (.proto .weakSet) "has" 1 (fun c => do boolean ((← weakSetOf c.this).2.any (sameValue (c.arg 0)))),
    .method (.proto .weakSet) "delete" 1 weakSetDelete, .maker .weakRef 1 makeWeakRef,
    .method (.proto .weakRef) "deref" 0 deref]

end ApiStencil.Script.Library.Collections
