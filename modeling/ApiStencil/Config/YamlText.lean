import ApiStencil.Config.Settings
import ApiStencil.Yaml.Printer
import ApiStencil.Yaml.Reader
/-!
Settings in YAML text: a mapping with a key for each setting. Other keys are passed over.
-/
set_option autoImplicit false

namespace ApiStencil.Config.YamlText
open Yaml Yaml.Reading

/-- A scalar that may stand for a value of a standard kind. -/
def mayBe (kind : String) (v : Scalar) : Bool :=
  match v.form with
  | .plain => true
  | .literal => v.tag == some ("tag:yaml.org,2002:" ++ kind)
  | .quoted | .folded => false

def flag (n : Node) (p : Place) : Reading Bool := do
  match ← follow n with
  | .scalar v m =>
    match mayBe "bool" v, resolve v.text with
    | true, .bool b => return b
    | _, _ => mismatch (.scalar v m) "a boolean" p
  | n => mismatch n "a boolean" p

/-- A natural number of at most 64 bits. -/
def natural? (s : String) : Option Nat :=
  match s.toList, int? s.toList with
  | '-' :: _, _ => none
  | _, some n => if 0 ≤ n && n ≤ Number.maxNat then some n.toNat else none
  | _, none => none

/-- Whether a scalar stands for no value. A tag that asks for none is a fault of the whole mapping at
`outer` where there is a value. -/
def isNothing (v : Scalar) (outer : Mark) : Reading Bool := do
  if v.form != .plain then return false
  match v.tag, resolve v.text with
  | none, .null => return true
  | none, _ => return false
  | some "tag:yaml.org,2002:null", x =>
    match v.text, x with
    | "", _ => shape "invalid value: string \"\", expected null" outer .root
    | _, .null => return true
    | s, _ => shape s!"invalid value: string {Text.quoted s}, expected null" outer .root
  | some _, _ => return false

def count (n : Node) (p : Place) (outer : Mark) : Reading (Option Nat) := do
  match ← follow n with
  | .void _ => return none
  | .scalar v m =>
    if ← isNothing v outer then return none
    match mayBe "int" v, natural? v.text with
    | true, some n => return some n
    | _, _ => mismatch (.scalar v m) "u64" p
  | n => mismatch n "u64" p

/-- A plain scalar without text stands for an empty collection. -/
def isEmptyScalar (v : Scalar) : Bool := v.form == .plain && v.text.isEmpty

def texts (n : Node) (p : Place) : Reading (List String) := do
  match ← follow n with
  | .sequence _ items _ => items.zipIdx.mapM fun (item, i) => text item "a string" (.item p i)
  | .void _ => return []
  | .scalar v m => if isEmptyScalar v then return [] else mismatch (.scalar v m) "a sequence" p
  | n => mismatch n "a sequence" p

def setting (kind : Kind) (n : Node) (p : Place) (outer : Mark) : Reading Setting := do
  match kind with
  | .text => return .text (← text n "a string" p)
  | .flag => return .flag (← flag n p)
  | .texts => return .texts (← texts n p)
  | .count => return .count (← count n p outer)

/-- Settings of a mapping that begins at `outer`. -/
def entries (outer : Mark) (acc : Settings) : List (Node × Node) → Reading Settings
  | [] => return acc
  | (k, v) :: rest => do
    let name ← text k "field identifier" .root
    match Key.ofName? name with
    | none =>
      if !v.isWhole then ended
      entries outer acc rest
    | some key =>
      if (acc.lookup key).isSome then shape (duplicateText key) outer .root
      entries outer ((key, ← setting key.kind v (under .root k) outer) :: acc) rest

def finish (outer : Mark) (found : Settings) : Reading Config := do
  match ofSettings found with
  | .ok c => return c
  | .error key => shape (missingText key) outer .root

def config (n : Node) : Reading Config := do
  match ← follow n with
  | .mapping _ es m => finish m (← entries m [] es)
  | .void m => finish m []
  | .scalar v m => if isEmptyScalar v then finish m [] else mismatch (.scalar v m) "struct Config" .root
  | n => mismatch n "struct Config" .root

/-- The configuration in a text. -/
def parse (s : String) : Except Fault Config := readWith config s

def render (c : Config) : String := blockFields 0 c.fields ++ "\n"

end ApiStencil.Config.YamlText
