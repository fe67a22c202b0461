import ApiStencil.Script.Library.Native
/-!
Iterators and generators, and what can be done with the values of any iterator.
-/
set_option autoImplicit false

namespace ApiStencil.Script.Library.Walks
open M

def proto : Intrinsic := .proto .iterator

def maker : Intrinsic := .maker .iterator

def next (c : Call) : M Value := do
  match c.this with
  | .object r =>
    match ← stepWalk r with
    | some v => newRound v false
    | none => newRound .undefined true
  | _ => typeError "not an iterator"

/-- The iterator that `this` is. -/
def thisIter (c : Call) : M Iter := do
  let _ ← needObject c.this
  return ⟨c.this, ← getNamed c.this "next"⟩

def helper (does : WalkHelper) (c : Call) : M Value := do
  let _ ← needObject c.this
  needFunction (c.arg 0)
  let it ← thisIter c
  return .object (← newPlain (.fixture .helperWalk) (.walk (.helper does it (c.arg 0) 0 none false)))

def counted (does : WalkHelper) (c : Call) : M Value := do
  let _ ← needObject c.this
  let x ← toNumber (c.arg 0)
  if x.isNaN then rangeError "must be positive"
  let n ← toInteger (.number x)
  if n < 0.0 then rangeError "must be positive"
  let it ← thisIter c
  let count ← toClamped (.number n) maxLength 0
  return .object (← newPlain (.fixture .helperWalk) (.walk (.helper does it .undefined count none false)))

/-- Stops a helper and the iterator it stands on. -/
def stop (c : Call) : M Value := do
  match c.this with
  | .object r =>
    match ← kindOf r with
    | .walk (.helper does it f count inner done) =>
      if !done then
        setKind r (.walk (.helper does it f count inner true))
        match inner with
        | some i => closeIter i
        | none => pure ()
        closeIter it
      newRound .undefined true
    | .walk (.wrapped it) =>
      match ← method? it.object (.ofString "return") with
      | some f => call f it.object []
      | none => newRound .undefined true
    | _ => typeError "not an iterator"
  | _ => typeError "not an iterator"

/-- Asks `f` about each value until it gives `wanted`. -/
def untilGives (it : Iter) (f : Value) (wanted : Bool) : Nat → Nat → M (Option Value)
  | 0, _ => return none
  | n + 1, place => do
    match ← nextOf it with
    | none => return none
    | some v =>
      let r ← closingOnFailure it (call f .undefined [v, .ofNat place])
      if truthy r == wanted then
        closeIter it
        return some v
      else untilGives it f wanted n (place + 1)

def asking (wanted : Bool) (answer : Option Value → Value) (c : Call) : M Value := do
  let _ ← needObject c.this
  needFunction (c.arg 0)
  return answer (← untilGives (← thisIter c) (c.arg 0) wanted maxItems 0)

def forEach (c : Call) : M Value := do
  let _ ← needObject c.this
  needFunction (c.arg 0)
  let items ← collectWith (← thisIter c) maxItems 0
  return items
where
  collectWith (it : Iter) : Nat → Nat → M Value
    | 0, _ => undefined
    | n + 1, place => do
      match ← nextOf it with
      | none => undefined
      | some v =>
        let _ ← closingOnFailure it (call (c.arg 0) .undefined [v, .ofNat place])
        collectWith it n (place + 1)

def foldFrom (it : Iter) (f : Value) : Nat → Nat → Value → M Value
  | 0, _, acc => return acc
  | n + 1, place, acc => do
    match ← nextOf it with
    | none => return acc
    | some v => foldFrom it f n (place + 1) (← closingOnFailure it (call f .undefined [acc, v, .ofNat place]))

def reduce (c : Call) : M Value := do
  let _ ← needObject c.this
  needFunction (c.arg 0)
  let it ← thisIter c
  if c.args.length > 1 then foldFrom it (c.arg 0) maxItems 0 (c.arg 1)
  else
    match ← nextOf it with
    | some v => foldFrom it (c.arg 0) maxItems 1 v
    | none => typeError "empty iterator"

def make (c : Call) : M Value := do
  needNew c
  if sameValue c.newTarget (.object maker.ref) then typeError "abstract class not constructable"
  return .object (← newInstance c .iterator .plain)

def from_ (c : Call) : M Value := do
  let it ← match ← (do
      match c.arg 0 with
      | .object _ | .text _ => method? (c.arg 0) KnownSymbol.iterator.key
      | _ => typeError "Iterator.from called on non-object") with
    | some f => iterateBy (c.arg 0) f
    | none => do
      let _ ← needObject (c.arg 0)
      pure ⟨c.arg 0, ← getNamed (c.arg 0) "next"⟩
  match it.object with
  | .object r =>
    if ← instanceBy.behind reach r proto.ref then return it.object
    else return .object (← newPlain (.fixture .wrappedWalk) (.walk (.wrapped it)))
  | v => return v

def resumeThis (c : Call) (how : Resumption) : M Value := do
  match c.this with
  | .object r =>
    match ← kindOf r with
    | .generator _ => (← read).resume r how
    | _ => typeError "not a generator"
  | _ => typeError "not a generator"

def rows : List Native :=
  [.inner .walkNext "next" 0 next, .maker .iterator 0 make, .method maker "from" 1 from_,
    .symbolMethod proto .iterator 0 (fun c => return c.this),
    .method proto "map" 1 (helper .map), .method proto "filter" 1 (helper .filter),
    .method proto "take" 1 (counted .take), .method proto "drop" 1 (counted .drop),
    .method proto "flatMap" 1 (helper .flatMap), .method proto "reduce" 1 reduce,
    .method proto "toArray" 0 (fun c => do newArray (← collect (← thisIter c) maxItems #[])),
    .method proto "forEach" 1 forEach, .method proto "some" 1 (asking true fun v => .bool v.isSome),
    .method proto "every" 1 (asking false fun v => .bool v.isNone),
    .method proto "find" 1 (asking true fun v => v.getD .undefined),
    .method (.fixture .helperWalk) "return" 0 stop, .method (.fixture .wrappedWalk) "return" 0 stop,
    .method (.fixture .generator) "next" 1 (fun c => resumeThis c (.next (c.arg 0))),
    .method (.fixture .generator) "return" 1 (fun c => resumeThis c (.give (c.arg 0))),
    .method (.fixture .generator) "throw" 1 (fun c => resumeThis c (.throw (c.arg 0)))]

end ApiStencil.Script.Library.Walks
