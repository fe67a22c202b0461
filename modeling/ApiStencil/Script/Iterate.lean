import ApiStencil.Script.Convert
/-!
Going through the values of an iterator. Iterators of the library keep their place in the object
itself, so that a round needs no call.
-/
set_option autoImplicit false

namespace ApiStencil.Script

namespace M

/-- The iterator that a method gives. -/
def iterateBy (v f : Value) : M Iter := do
  let it ← call f v []
  if !it.isObject then typeError "not an object"
  return ⟨it, ← getNamed it "next"⟩

def iterate (v : Value) : M Iter := do
  let f ← getMember v KnownSymbol.iterator.key
  if !(← isCallable f) then typeError "value is not iterable"
  iterateBy v f

/-- The object that an iterator gives in each round. -/
def newRound (value : Value) (done : Bool) : M Value := do
  return .object (← newObject
    ⟨some (Intrinsic.proto .object).ref, true, .plain,
      #[(.ofString "value", shown value), (.ofString "done", shown (.bool done))]⟩)

/-- The next value by a call of the method. -/
def askNext (it : Iter) : M (Option Value) := do
  let r ← callOrFail it.next it.object []
  if !r.isObject then typeError "iterator must return an object"
  if truthy (← getNamed r "done") then return none
  return some (← getNamed r "value")

/-- Tells an iterator that no more values are asked for. -/
def closeIter (it : Iter) : M Unit := do
  match ← method? it.object (.ofString "return") with
  | none => return ()
  | some f =>
    let r ← call f it.object []
    if !r.isObject then typeError "not an object"

/-- Runs `x`; if it fails, the iterator is told so, and what comes of that is ignored. -/
def closingOnFailure {α : Type} (it : Iter) (x : M α) : M α :=
  tryCatch x fun e => do
    match e with
    | .thrown v =>
      let _ ← attempt (closeIter it)
      throw (.thrown v)
    | e => throw e

def pairOf (side : WalkOver) (key value : Value) : M Value := do
  match side with
  | .keys => return key
  | .values => return value
  | .entries => newList [key, value]

/-- The first entry at or behind a place, and its place. -/
def entryFrom {α : Type} (entries : Array (Option α)) (place : Nat) : Option (Nat × α) :=
  (List.range' place (entries.size - place)).findSome? fun i => ((entries[i]?).join).map fun e => (i, e)

/-- Skips values of an iterator. -/
def skipValues (it : Iter) : Nat → M Bool
  | 0 => return true
  | n + 1 => do
    match ← askNext it with
    | none => return false
    | some _ => skipValues it n

/-- Values of an iterator until `f` accepts one, at most `n` of them. -/
def nextAccepted (it : Iter) (f : Value) : Nat → Nat → M (Option (Value × Nat))
  | 0, _ => return none
  | n + 1, place => do
    match ← askNext it with
    | none => return none
    | some v =>
      let ok ← closingOnFailure it (call f .undefined [v, .ofNat place])
      if truthy ok then return some (v, place + 1) else nextAccepted it f n (place + 1)

/-- The next value of the iterators that `f` makes of the values of another one. -/
def nextFlat (it : Iter) (f : Value) : Nat → Nat → Option Iter → M (Option (Value × Nat × Option Iter))
  | 0, _, _ => return none
  | n + 1, place, some inner => do
    match ← closingOnFailure it (askNext inner) with
    | some v => return some (v, place, some inner)
    | none => nextFlat it f n place none
  | n + 1, place, none => do
    match ← askNext it with
    | none => return none
    | some v =>
      let inner ← closingOnFailure it do
        let r ← call f .undefined [v, .ofNat place]
        if !r.isObject then typeError "not an object"
        iterate r
      nextFlat it f n (place + 1) (some inner)

/-- What a helper makes of the iterator it stands on. -/
def stepHelper (r : Nat) (does : WalkHelper) (it : Iter) (f : Value) (count : Nat) (inner : Option Iter) :
    M (Option Value) := do
  let stay := fun (count : Nat) (inner : Option Iter) (done : Bool) =>
    setKind r (.walk (.helper does it f count inner done))
  let finish : M (Option Value) := do
    stay count none true
    return none
  match does with
  | .map =>
    match ← askNext it with
    | none => finish
    | some v =>
      let w ← closingOnFailure it (call f .undefined [v, .ofNat count])
      stay (count + 1) none false
      return some w
  | .filter =>
    match ← nextAccepted it f reach count with
    | none => finish
    | some (v, count) =>
      stay count none false
      return some v
  | .take =>
    if count == 0 then
      closeIter it
      finish
    else
      match ← askNext it with
      | none => finish
      | some v =>
        stay (count - 1) none false
        return some v
  | .drop =>
    if ← skipValues it count then
      match ← askNext it with
      | none => finish
      | some v =>
        stay 0 none false
        return some v
    else finish
  | .flatMap =>
    match ← nextFlat it f reach count inner with
    | none => finish
    | some (v, count, inner) =>
      stay count inner false
      return some v

/-- The next match of a pattern that is looked for again and again. -/
def stepFound (r : Nat) (regex : Value) (u : Units) (all unicode : Bool) : M (Option Value) := do
  let finish := setKind r (.walk (.found regex u all unicode true))
  let found ← invoke regex (.ofString "exec") [.text u]
  if found.isNullish then
    finish
    return none
  if !all then finish
  else
    let whole ← toText (← getMember found (.ofIndex 0))
    if whole.isEmpty then
      let at_ ← toLength (← getNamed regex "lastIndex")
      putNamed regex "lastIndex" (.ofNat (at_ + if unicode then u.widthAt at_ else 1))
  return some found

/-- The next value of an iterator of the library. -/
def stepWalk (r : Nat) : M (Option Value) := do
  match ← kindOf r with
  | .walk (.items none _ _) => return none
  | .walk (.items (some v) place side) =>
    let n ← lengthOf v
    if n ≤ place then
      setKind r (.walk (.items none place side))
      return none
    setKind r (.walk (.items (some v) (place + 1) side))
    match side with
    | .keys => return some (.ofNat place)
    | .values => return some (← getIndex v (.ofNat place))
    | .entries => return some (← pairOf .entries (.ofNat place) (← getIndex v (.ofNat place)))
  | .walk (.map (some m) place side) =>
    match ← kindOf m with
    | .map entries =>
      match entryFrom entries place with
      | some (i, k, v) =>
        setKind r (.walk (.map (some m) (i + 1) side))
        return some (← pairOf side k v)
      | none =>
        setKind r (.walk (.map none place side))
        return none
    | _ => return none
  | .walk (.set (some m) place side) =>
    match ← kindOf m with
    | .set entries =>
      match entryFrom entries place with
      | some (i, v) =>
        setKind r (.walk (.set (some m) (i + 1) side))
        return some (← pairOf side v v)
      | none =>
        setKind r (.walk (.set none place side))
        return none
    | _ => return none
  | .walk (.text u place) =>
    if u.size ≤ place then return none
    let w := u.widthAt place
    setKind r (.walk (.text u (place + w)))
    return some (.text (u.slice place (place + w)))
  | .walk (.found regex u all unicode false) => stepFound r regex u all unicode
  | .walk (.helper does it f count inner false) => stepHelper r does it f count inner
  | .walk (.wrapped it) => askNext it
  | .walk _ => return none
  | _ => typeError "not an iterator"

/-- The next value of an iterator. -/
def nextOf (it : Iter) : M (Option Value) := do
  match it.object, it.next with
  | .object r, .object f =>
    match ← kindOf f, ← kindOf r with
    | .native id _, .walk _ => if id == Inner.walkNext.id then stepWalk r else askNext it
    | _, _ => askNext it
  | _, _ => askNext it

/-- Does `f` to each value of an iterator. -/
def forEachOf (it : Iter) (f : Value → M Unit) : Nat → M Unit
  | 0 => return ()
  | n + 1 => do
    match ← nextOf it with
    | none => return ()
    | some v =>
      closingOnFailure it (f v)
      poll
      forEachOf it f n

/-- How many values a list may have. -/
def maxItems : Nat := 4294967296

def collect (it : Iter) : Nat → Array Value → M (Array Value)
  | 0, acc => return acc
  | n + 1, acc => do
    match ← nextOf it with
    | none => return acc
    | some v => do
      poll
      collect it n (acc.push v)

/-- All values that an iterable value gives. -/
def valuesOf (v : Value) : M (Array Value) := do
  collect (← iterate v) maxItems #[]

end M
end ApiStencil.Script
