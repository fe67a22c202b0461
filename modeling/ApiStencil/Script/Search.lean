import ApiStencil.Script.Convert
import ApiStencil.Script.SearchPattern
/-!
Patterns as objects, and what a match of one gives. Places in a text are counted in code units, also
where the pattern is matched over code points.
-/
set_option autoImplicit false

namespace ApiStencil.Script

/-- A pattern with its notation. -/
structure Search where
  ref : Nat
  source : Units
  flags : Units
  regex : Regex

namespace Search

def hasFlag (s : Search) (c : Char) : Bool := s.flags.contains c.toNat.toUInt16

def isUnicode (s : Search) : Bool := s.hasFlag 'u' || s.hasFlag 'v'

/-- Where each symbol of a text begins, and where the last one ends. -/
def starts (unicode : Bool) (u : Units) : Array Nat :=
  if unicode then
    (u.points.foldl (fun (acc, i) n => let j := i + (if n ≥ 0x10000 then 2 else 1); (acc.push j, j)) (#[0], 0)).1
  else Array.range (u.size + 1)

/-- The spans of the match at or behind a place, in code units. -/
def find? (s : Search) (u : Units) (start : Nat) (sticky : Bool) : Option (Array (Option (Nat × Nat))) :=
  let subject := (SearchPattern.symbols s.isUnicode u).toArray
  let starts := starts s.isUnicode u
  let place := (starts.findIdx? (start ≤ ·)).getD subject.size
  let found := if sticky then s.regex.matchAt? subject place else s.regex.search? subject place
  let unit := fun i => starts.getD i u.size
  found.map fun spans => spans.map fun span => span.map fun (lo, hi) => (unit lo, unit hi)

end Search

namespace M

def newRegex (source flags : Units) : M Value := do
  match searchPattern? source flags with
  | none => fail .syntaxKind "invalid regular expression"
  | some regex =>
    let r ← newPlain (.proto .regex) (.regex source flags regex)
    addSlot r (.ofString "lastIndex") (.data (.ofNat 0) true false false)
    return .object r

/-- The pattern that an object is, if it is one. -/
def search? (v : Value) : M (Option Search) := do
  match v with
  | .object r =>
    match ← kindOf r with
    | .regex source flags regex => return some ⟨r, source, flags, regex⟩
    | _ => return none
  | _ => return none

def spanText (u : Units) : Option (Nat × Nat) → Value
  | some (lo, hi) => .text (u.slice lo hi)
  | none => .undefined

/-- The named groups as an object, or `undefined` where no group has a name. -/
def namedGroups (names : List (String × Nat)) (values : Array Value) : M Value := do
  if names.isEmpty then return .undefined
  let slots := names.map fun (name, i) => (Key.ofString name, shown (values.getD i .undefined))
  return .object (← newObject ⟨none, true, .plain, slots.toArray⟩)

/-- A match as an object. -/
def describeMatch (s : Search) (u : Units) (spans : Array (Option (Nat × Nat))) : M Value := do
  let texts := spans.map (spanText u)
  let result ← newPlain (.proto .array) (.array texts)
  let start := ((spans.getD 0 none).map (·.1)).getD 0
  addSlot result (.ofString "index") (shown (.ofNat start))
  addSlot result (.ofString "input") (shown (.text u))
  addSlot result (.ofString "groups") (shown (← namedGroups s.regex.names texts))
  if s.hasFlag 'd' then
    let pairs ← spans.mapM fun span => do
      match span with
      | some (lo, hi) => newList [.ofNat lo, .ofNat hi]
      | none => return .undefined
    let indices ← newPlain (.proto .array) (.array pairs)
    addSlot indices (.ofString "groups") (shown (← namedGroups s.regex.names pairs))
    addSlot result (.ofString "indices") (shown (.object indices))
  return .object result

/-- The next match of a pattern, which keeps its place in the pattern if its flags say so. -/
def execute (s : Search) (u : Units) : M (Option (Array (Option (Nat × Nat)))) := do
  let this := Value.object s.ref
  let place ← toLength (← getNamed this "lastIndex")
  let keeps := s.hasFlag 'g' || s.hasFlag 'y'
  let start := if keeps then place else 0
  let found := if u.size < start then none else s.find? u start (s.hasFlag 'y')
  match found with
  | none =>
    if keeps then putNamed this "lastIndex" (.ofNat 0)
    return none
  | some spans =>
    if keeps then putNamed this "lastIndex" (.ofNat (((spans.getD 0 none).map (·.2)).getD 0))
    return some spans

/-- What a search gives: a match as an object, or null. -/
def searchBy (v : Value) (u : Units) : M Value := do
  let exec ← getNamed v "exec"
  if ← isCallable exec then
    let found ← call exec v [.text u]
    match found with
    | .object _ | .null => return found
    | _ => typeError "object or null expected"
  else
    match ← search? v with
    | none => typeError "RegExp object expected"
    | some s =>
      match ← execute s u with
      | some spans => describeMatch s u spans
      | none => return .null

end M
end ApiStencil.Script
