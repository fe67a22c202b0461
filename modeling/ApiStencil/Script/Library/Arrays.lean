import ApiStencil.Script.Library.Native
import ApiStencil.Script.Library.Objects
/-!
Arrays, and what they have in common with views.
-/
set_option autoImplicit false

/-!
Sorting, and searching for an item from either end.
-/

namespace ApiStencil.Script.M

/-- Two sorted lists as one; of equal items the left one comes first. -/
def mergeBy {α : Type} (after : α → α → M Bool) : Nat → List α → List α → List α → M (List α)
  | 0, as, bs, acc => return acc.reverse ++ as ++ bs
  | _ + 1, [], bs, acc => return acc.reverse ++ bs
  | _ + 1, as, [], acc => return acc.reverse ++ as
  | n + 1, a :: as, b :: bs, acc => do
    if ← after a b then mergeBy after n (a :: as) bs (b :: acc) else mergeBy after n as (b :: bs) (a :: acc)

def sortBy {α : Type} (after : α → α → M Bool) : Nat → List α → M (List α)
  | 0, xs => return xs
  | n + 1, xs => do
    if xs.length < 2 then return xs
    let half := xs.length / 2
    let left ← sortBy after n (xs.take half)
    let right ← sortBy after n (xs.drop half)
    mergeBy after (xs.length + 1) left right []

/-- Whether a comparison function puts `a` behind `b`. -/
def comesAfter (compare : Value) (a b : Value) : M Bool := do
  let x ← toNumber (← call compare .undefined [a, b])
  return x > 0.0

def textAfter (a b : Units × Value) : M Bool := return b.1.before a.1

/-- Values in order, by a function or by their texts. -/
def inOrder (compare : Value) (vs : List Value) : M (List Value) :=
  match compare with
  | .undefined => do
    let pairs ← vs.mapM fun v => do return (← toText v, v)
    return (← sortBy textAfter 64 pairs).map (·.2)
  | f => sortBy (comesAfter f) 64 vs

/-- Values in order; those that are undefined come last. -/
def sorted (compare : Value) (vs : List Value) : M (List Value) := do
  let isUndefined := fun v => match v with
    | Value.undefined => true
    | _ => false
  let (gone, there) := vs.partition isUndefined
  return (← inOrder compare there) ++ gone

/-- The first of the places at which `f` holds, with the item there. -/
def firstWhere (f this : Value) (sequence : Value) (item : Nat → M Value) : List Nat → M (Option (Nat × Value))
  | [] => return none
  | i :: rest => do
    let v ← item i
    if truthy (← call f this [v, .ofNat i, sequence]) then return some (i, v)
    else firstWhere f this sequence item rest

/-- Does `f` to the items at these places, from a value on. -/
def folded (f : Value) (sequence : Value) (item : Nat → M (Option Value)) : List Nat → Value → M Value
  | [], acc => return acc
  | i :: rest, acc => do
    match ← item i with
    | some v => folded f sequence item rest (← call f .undefined [acc, v, .ofNat i, sequence])
    | none => folded f sequence item rest acc

end ApiStencil.Script.M

/-!
Most methods of arrays work on anything that has a length.
-/

namespace ApiStencil.Script.Library.Arrays
open M

def proto : Intrinsic := .proto .array

def maker : Intrinsic := .maker .array

def isArrayAt : Nat → Value → M Bool
  | 0, _ => return false
  | n + 1, v => do
    match ← kind? v with
    | some (.array _) | some (.sparse _ _) => return true
    | some (.proxy (some t) _ _ _) => isArrayAt n (.object t)
    | some (.proxy none _ _ _) => typeError "revoked proxy"
    | _ => return false

def isArray (v : Value) : M Bool := isArrayAt reach v

def make (c : Call) : M Value := do
  let r ← newInstance c .array (.array #[])
  match c.args with
  | [.number x] =>
    if 0.0 ≤ x && x < 4294967296.0 && x.floor == x then
      if x > 0.0 then setKind r (.sparse x.toUInt64.toNat false)
    else rangeError "invalid array length"
  | args => setKind r (.array args.toArray)
  return .object r

/-- What `this` stands for as an object with a length. -/
def receiver (c : Call) : M (Value × Nat) := do
  let v := Value.object (← toObject c.this)
  return (v, ← lengthOf v)

/-- The item at a place, or nothing where there is a gap. -/
def item? (v : Value) (i : Nat) : M (Option Value) := do
  match v with
  | .object r =>
    match (← object r).kind with
    | .array items =>
      match items[i]? with
      | some x => return some x
      | none => if ← hasKey r (.ofIndex i) then return some (← getMember v (.ofIndex i)) else return none
    | _ => if ← hasKey r (.ofIndex i) then return some (← getMember v (.ofIndex i)) else return none
  | _ => return none

def itemAt (v : Value) (i : Nat) : M Value := getIndex v (.ofNat i)

def put (v : Value) (i : Nat) (x : Value) : M Unit := putMember v (.ofIndex i) x

def remove (v : Value) (i : Nat) : M Unit := do
  if !(← deleteKey (← toObject v) (.ofIndex i)) then typeError "could not delete property"

def setLength (v : Value) (n : Nat) : M Unit := putMember v lengthKey (.ofNat n)

/-- The function that makes arrays like `v`, if that is not the usual one. -/
def speciesOf (v : Value) : M (Option Value) := do
  if !(← isArray v) then return none
  let c ← getNamed v "constructor"
  let c ← if c.isObject then getMember c KnownSymbol.species.key else pure c
  match c with
  | .undefined | .null => return none
  | c =>
    if sameValue c (.object maker.ref) then return none
    needConstructor c
    return some c

/-- An array like `v` with these items; a gap stays a gap. -/
def likeWithGaps (v : Value) (items : List (Option Value)) : M Value := do
  let target ← match ← speciesOf v with
    | none => do
      if items.all Option.isSome then return ← newList (items.filterMap id)
      pure (Value.object (← newPlain proto (.array #[])))
    | some c => construct c [.ofNat 0] c
  let r ← toObject target
  for (x, i) in items.zipIdx do
    match x with
    | some x => M.create r (.ofIndex i) x
    | none => pure ()
  setLength target items.length
  return target

def like (v : Value) (items : List Value) : M Value := likeWithGaps v (items.map some)

/-- An object made by `this` for a list, or an array. -/
def madeBy (c : Call) (args : List Value) : M Value := do
  if ← isConstructor c.this then construct c.this args c.this else newArray #[]

def fill_ (target : Value) (items : List Value) : M Value := do
  let r ← toObject target
  for (x, i) in items.zipIdx do
    M.create r (.ofIndex i) x
  setLength target items.length
  return target

def ofItems (c : Call) : M Value := do
  fill_ (← madeBy c [.ofNat c.args.length]) c.args

def mapped (f this : Value) (items : List Value) : M (List Value) := do
  match f with
  | .undefined => return items
  | f => items.zipIdx.mapM fun (v, i) => call f this [v, .ofNat i]

def from_ (c : Call) : M Value := do
  match c.arg 1 with
  | .undefined => pure ()
  | f => needFunction f
  let source := c.arg 0
  if source.isNullish then
    let _ ← toObject source
  match ← method? source KnownSymbol.iterator.key with
  | some f =>
    let target ← madeBy c []
    let items ← collect (← iterateBy source f) maxItems #[]
    fill_ target (← mapped (c.arg 1) (c.arg 2) items.toList)
  | none =>
    let source := Value.object (← toObject source)
    let n ← lengthOf source
    let target ← madeBy c [.ofNat n]
    let items ← (List.range n).mapM (itemAt source)
    fill_ target (← mapped (c.arg 1) (c.arg 2) items)

def at_ (c : Call) : M Value := do
  let (v, n) ← receiver c
  let x ← toInteger (c.arg 0)
  let i := if x < 0.0 then x + Float.ofNat n else x
  if 0.0 ≤ i && i < Float.ofNat n then itemAt v i.toUInt64.toNat else undefined

def isSpreadable (v : Value) : M Bool := do
  match v with
  | .object _ =>
    match ← getMember v KnownSymbol.isConcatSpreadable.key with
    | .undefined => isArray v
    | s => return truthy s
  | _ => return false

def concat (c : Call) : M Value := do
  let this := Value.object (← toObject c.this)
  let parts ← (this :: c.args).mapM fun v => do
    if ← isSpreadable v then (List.range (← lengthOf v)).mapM (item? v) else return [some v]
  likeWithGaps this parts.flatten

def copyWithin (c : Call) : M Value := do
  let (v, n) ← receiver c
  let to_ ← toPlace (c.arg 0) n 0
  let lo ← toPlace (c.arg 1) n 0
  let hi ← toPlace (c.arg 2) n n
  let count := min (hi - lo) (n - to_)
  let items ← (List.range count).mapM fun i => item? v (lo + i)
  for (x, i) in items.zipIdx do
    match x with
    | some x => put v (to_ + i) x
    | none => remove v (to_ + i)
  return v

def fill (c : Call) : M Value := do
  let (v, n) ← receiver c
  let lo ← toPlace (c.arg 1) n 0
  let hi ← toPlace (c.arg 2) n n
  let fresh ← match v with
    | .object r => do
      let o ← object r
      match o.kind with
      | .sparse m false => pure (if o.extensible && lo == 0 && hi == m && o.slots.isEmpty then some r else none)
      | _ => pure none
    | _ => pure none
  match fresh with
  | some r => setKind r (.array (.replicate n (c.arg 0)))
  | none =>
    for i in List.range' lo (hi - lo) do
      put v i (c.arg 0)
  return v

def find (backwards wantsPlace : Bool) (c : Call) : M Value := do
  let (v, n) ← receiver c
  needFunction (c.arg 0)
  let places := if backwards then (List.range n).reverse else List.range n
  match ← firstWhere (c.arg 0) (c.arg 1) v (itemAt v) places with
  | some (i, x) => return if wantsPlace then .ofNat i else x
  | none => if wantsPlace then return .ofInt (-1) else undefined

/-- The items that are there, with their places. -/
def eachOf (c : Call) (f : Nat → Value → M Unit) : M Unit := do
  let (v, n) ← receiver c
  needFunction (c.arg 0)
  for i in List.range n do
    match ← item? v i with
    | some x => f i x
    | none => pure ()

def ask (c : Call) (v : Value) (i : Nat) (x : Value) : M Value := call (c.arg 0) (c.arg 1) [x, .ofNat i, v]

def forEach (c : Call) : M Value := do
  let v := Value.object (← toObject c.this)
  eachOf c fun i x => do
    let _ ← ask c v i x
  undefined

def map (c : Call) : M Value := do
  let (v, n) ← receiver c
  needFunction (c.arg 0)
  let items ← (List.range n).mapM fun i => do
    match ← item? v i with
    | some x => return some (← ask c v i x)
    | none => return none
  likeWithGaps v items

def filter (c : Call) : M Value := do
  let (v, n) ← receiver c
  needFunction (c.arg 0)
  let items ← (List.range n).filterMapM fun i => do
    match ← item? v i with
    | some x => return if truthy (← ask c v i x) then some x else none
    | none => return none
  like v items

/-- Whether `f` gives `wanted` for some item. -/
def meets (c : Call) (v : Value) (wanted : Bool) : List Nat → M Bool
  | [] => return false
  | i :: rest => do
    match ← item? v i with
    | some x => if truthy (← ask c v i x) == wanted then return true else meets c v wanted rest
    | none => meets c v wanted rest

def some_ (c : Call) : M Value := do
  let (v, n) ← receiver c
  needFunction (c.arg 0)
  boolean (← meets c v true (List.range n))

def every (c : Call) : M Value := do
  let (v, n) ← receiver c
  needFunction (c.arg 0)
  boolean (!(← meets c v false (List.range n)))

/-- The first item that is there, and the places behind it. -/
def firstItem (v : Value) : List Nat → M (Option (Value × List Nat))
  | [] => return none
  | i :: rest => do
    match ← item? v i with
    | some x => return some (x, rest)
    | none => firstItem v rest

def reduce (backwards : Bool) (c : Call) : M Value := do
  let (v, n) ← receiver c
  needFunction (c.arg 0)
  let places := if backwards then (List.range n).reverse else List.range n
  if c.args.length > 1 then folded (c.arg 0) v (item? v) places (c.arg 1)
  else
    match ← firstItem v places with
    | some (x, rest) => folded (c.arg 0) v (item? v) rest x
    | none => typeError "empty array"

def includes (c : Call) : M Value := do
  let (v, n) ← receiver c
  let lo ← toPlace (c.arg 1) n 0
  for i in List.range' lo (n - lo) do
    if sameValueZero (← itemAt v i) (c.arg 0) then return .bool true
  return .bool false

def indexOf (c : Call) : M Value := do
  let (v, n) ← receiver c
  let lo ← toPlace (c.arg 1) n 0
  for i in List.range' lo (n - lo) do
    if (← item? v i).any (strictEqual (c.arg 0)) then return .ofNat i
  return .ofInt (-1)

def lastIndexOf (c : Call) : M Value := do
  let (v, n) ← receiver c
  let stop ← if c.args.length < 2 then pure n
    else do
      let x ← toInteger (c.arg 1)
      let i := if x < 0.0 then x + Float.ofNat n else x
      pure (if i < 0.0 then 0 else if i ≥ Float.ofNat n then n else i.toUInt64.toNat + 1)
  for i in (List.range stop).reverse do
    if (← item? v i).any (strictEqual (c.arg 0)) then return .ofNat i
  return .ofInt (-1)

/-- Texts of items with a separator between them; nothing stands for a missing value. -/
def joined (v : Value) (n : Nat) (separator : Units) : M Units := do
  let parts ← (List.range n).mapM fun i => do
    let x ← itemAt v i
    if x.isNullish then return #[] else toText x
  return Units.join separator parts

def join (c : Call) : M Value := do
  let (v, n) ← receiver c
  let separator ← match c.arg 0 with
    | .undefined => pure (txt ",")
    | s => toText s
  poll
  text (← joined v n separator)

def toString (c : Call) : M Value := do
  let v := Value.object (← toObject c.this)
  let f ← getNamed v "join"
  if ← isCallable f then call f v [] else Objects.toString { c with this := v }

def toLocaleString (c : Call) : M Value := do
  let (v, n) ← receiver c
  let parts ← (List.range n).mapM fun i => do
    let x ← itemAt v i
    if x.isNullish then return #[] else toText (← invoke x (.ofString "toLocaleString") [])
  text (Units.join (txt ",") parts)

def push (c : Call) : M Value := do
  let (v, n) ← receiver c
  for (x, i) in c.args.zipIdx do
    put v (n + i) x
  setLength v (n + c.args.length)
  return .ofNat (n + c.args.length)

def pop (c : Call) : M Value := do
  let (v, n) ← receiver c
  if n == 0 then
    setLength v 0
    undefined
  else
    let x ← itemAt v (n - 1)
    match v with
    | .object r =>
      let o ← object r
      match o.kind, o.extensible with
      | .array _, true => modifyObject r fun o =>
          match o.kind with
          | .array items => { o with kind := .array items.pop }
          | _ => o
      | _, _ =>
        remove v (n - 1)
        setLength v (n - 1)
    | _ => pure ()
    return x

/-- Puts items at the places from `lo` on; a gap stays a gap. -/
def putAll (v : Value) (lo : Nat) (items : List (Option Value)) : M Unit := do
  for (x, i) in items.zipIdx do
    match x with
    | some x => put v (lo + i) x
    | none => remove v (lo + i)

/-- Replaces the `count` items from `lo` on. -/
def replaceItems (v : Value) (n lo count : Nat) (items : List Value) : M Unit := do
  let rest ← (List.range' (lo + count) (n - lo - count)).mapM (item? v)
  let m := lo + items.length + rest.length
  if items.length > count then
    putAll v (lo + items.length) rest
    putAll v lo (items.map some)
  else
    putAll v lo (items.map some)
    putAll v (lo + items.length) rest
    for i in (List.range' m (n - m)).reverse do
      remove v i
  setLength v m

/-- Whether an array has all its items in a row and may change. -/
def plainItems? (v : Value) : M (Option (Nat × Array Value)) := do
  match v with
  | .object r =>
    let o ← object r
    match o.kind with
    | .array items => return if o.extensible then some (r, items) else none
    | _ => return none
  | _ => return none

def shift (c : Call) : M Value := do
  let (v, n) ← receiver c
  if n == 0 then
    setLength v 0
    undefined
  else
    let x ← itemAt v 0
    match ← plainItems? v with
    | some (r, items) => setKind r (.array (items.extract 1 items.size))
    | none => replaceItems v n 0 1 []
    return x

def unshift (c : Call) : M Value := do
  let (v, n) ← receiver c
  match ← plainItems? v with
  | some (r, items) => setKind r (.array (c.args.toArray ++ items))
  | none => if c.args.isEmpty then setLength v n else replaceItems v n 0 0 c.args
  return .ofNat (n + c.args.length)

/-- The start of a range to replace, and how many items it has. -/
def rangeArgs (c : Call) (n : Nat) : M (Nat × Nat) := do
  let lo ← toPlace (c.arg 0) n 0
  let count ← match c.args.length with
    | 0 => pure 0
    | 1 => pure (n - lo)
    | _ => toClamped (c.arg 1) (n - lo) 0
  return (lo, count)

def splice (c : Call) : M Value := do
  let (v, n) ← receiver c
  let (lo, count) ← rangeArgs c n
  let removed ← (List.range' lo count).mapM (item? v)
  let result ← likeWithGaps v removed
  match ← plainItems? v with
  | some (r, items) =>
    setKind r (.array (items.extract 0 lo ++ (c.args.drop 2).toArray ++ items.extract (lo + count) items.size))
  | none => replaceItems v n lo count (c.args.drop 2)
  return result

def slice (c : Call) : M Value := do
  let (v, n) ← receiver c
  let lo ← toPlace (c.arg 0) n 0
  let hi ← toPlace (c.arg 1) n n
  likeWithGaps v (← (List.range' lo (hi - lo)).mapM (item? v))

def reverse (c : Call) : M Value := do
  let (v, n) ← receiver c
  putAll v 0 (← (List.range n).mapM (item? v)).reverse
  return v

def needCompare (v : Value) : M Unit := do
  match v with
  | .undefined => return ()
  | v => needFunction v

def sort (c : Call) : M Value := do
  needCompare (c.arg 0)
  let (v, n) ← receiver c
  let items ← (List.range n).mapM (item? v)
  let there ← sorted (c.arg 0) (items.filterMap id)
  putAll v 0 (there.map some)
  for i in List.range' there.length (n - there.length) do
    remove v i
  return v

def allItems (c : Call) : M (List Value) := do
  let (v, n) ← receiver c
  (List.range n).mapM (itemAt v)

def toSorted (c : Call) : M Value := do
  needCompare (c.arg 0)
  newList (← sorted (c.arg 0) (← allItems c))

def toSpliced (c : Call) : M Value := do
  let items ← allItems c
  let (lo, count) ← rangeArgs c items.length
  newList (items.take lo ++ c.args.drop 2 ++ items.drop (lo + count))

def with_ (c : Call) : M Value := do
  let items ← allItems c
  let x ← toInteger (c.arg 0)
  let i := if x < 0.0 then x + Float.ofNat items.length else x
  if 0.0 ≤ i && i < Float.ofNat items.length then newList (items.set i.toUInt64.toNat (c.arg 1))
  else rangeError "invalid array index"

/-- The items of nested arrays, down to `depth`. -/
def flattened : Nat → Nat → Value → M (List Value)
  | 0, _, _ => rangeError "Maximum call stack size exceeded"
  | fuel + 1, depth, v => do
    let parts ← (List.range (← lengthOf v)).mapM fun i => do
      match ← item? v i with
      | none => return []
      | some x =>
        if depth > 0 then
          if ← isArray x then return ← flattened fuel (depth - 1) x
        return [x]
    return parts.flatten

def flat (c : Call) : M Value := do
  let v := Value.object (← toObject c.this)
  let depth ← match c.arg 0 with
    | .undefined => pure 1
    | d => toClamped d maxLength 1
  like v (← flattened 5000 depth v)

def flatMap (c : Call) : M Value := do
  let (v, n) ← receiver c
  needFunction (c.arg 0)
  let parts ← (List.range n).mapM fun i => do
    match ← item? v i with
    | none => return []
    | some x =>
      let y ← ask c v i x
      if ← isArray y then (List.range (← lengthOf y)).filterMapM (item? y) else return [y]
  like v parts.flatten

def walk (side : WalkOver) (c : Call) : M Value := do
  let v := Value.object (← toObject c.this)
  return .object (← newPlain (.fixture .arrayWalk) (.walk (.items (some v) 0 side)))

def rows : List Native :=
  [.maker .array 1 make, .method maker "isArray" 1 (fun c => do boolean (← isArray (c.arg 0))),
    .method maker "from" 1 from_, .method maker "of" 0 ofItems, .symbolGetter maker .species fun c => return c.this,
    .method proto "at" 1 at_, .method proto "with" 2 with_, .method proto "concat" 1 concat,
    .method proto "every" 1 every, .method proto "some" 1 some_, .method proto "forEach" 1 forEach,
    .method proto "map" 1 map, .method proto "filter" 1 filter, .method proto "reduce" 1 (reduce false),
    .method proto "reduceRight" 1 (reduce true), .method proto "fill" 1 fill,
    .method proto "find" 1 (find false false), .method proto "findIndex" 1 (find false true),
    .method proto "findLast" 1 (find true false), .method proto "findLastIndex" 1 (find true true),
    .method proto "indexOf" 1 indexOf, .method proto "lastIndexOf" 1 lastIndexOf,
    .method proto "includes" 1 includes, .method proto "join" 1 join, .method proto "toString" 0 toString,
    .method proto "toLocaleString" 0 toLocaleString, .method proto "pop" 0 pop, .method proto "push" 1 push,
    .method proto "shift" 0 shift, .method proto "unshift" 1 unshift, .method proto "reverse" 0 reverse,
    .method proto "toReversed" 0 (fun c => do newList (← allItems c).reverse), .method proto "sort" 1 sort,
    .method proto "toSorted" 1 toSorted, .method proto "slice" 2 slice, .method proto "splice" 2 splice,
    .method proto "toSpliced" 2 toSpliced, .method proto "copyWithin" 2 copyWithin,
    .method proto "flatMap" 1 flatMap, .method proto "flat" 0 flat, .method proto "values" 0 (walk .values),
    .method proto "keys" 0 (walk .keys), .method proto "entries" 0 (walk .entries),
    .symbolMethod proto .iterator 0 (walk .values)]

end ApiStencil.Script.Library.Arrays
