import ApiStencil.Decimal.Layout
import ApiStencil.Json.Basic
import ApiStencil.Text.Quoted
import ApiStencil.Yaml.Document
import ApiStencil.Yaml.Scalar
/-!
Reading values from a document. An alias counts as a step, and there is a limit to such steps, so that
a small text cannot stand for an endless value.
-/
set_option autoImplicit false

namespace ApiStencil.Yaml

/-- Reading with a document at hand, and a count of the aliases passed. -/
abbrev Reading := ReaderT Document (StateT Nat (Except Fault))

namespace Reading

/-- How often each event may be reached through aliases. -/
def maxVisits : Nat := 100

/-- Most collections that may stand inside one another. -/
def maxDepth : Nat := 128

/-- The document ends here. -/
def ended {α : Type} : Reading α := do
  throw ((← read).fault.getD .noDocument)

/-- The node that an alias stands for; any other node stands for itself. -/
def follow (n : Node) : Reading Node := do
  match n with
  | .alias target _ =>
    let d ← read
    let count := (← get) + 1
    set count
    if count > d.size * maxVisits then throw .tooManyAliases
    return (d.nodes.lookup target).getD .cut
  | n => return n

def shape {α : Type} (text : String) (m : Mark) (p : Place) : Reading α := throw (.shape text m p)

/-- What a scalar stands for. A tag of the standard kinds asks for a value of that kind. -/
def valueOf (v : Scalar) : Except String Plain :=
  let wrong := fun (what : String) => Except.error s!"invalid value: string {Text.quoted v.text}, expected {what}"
  match v.tag with
  | some "tag:yaml.org,2002:bool" =>
    match resolve v.text with
    | .bool b => .ok (.bool b)
    | _ => wrong "a boolean"
  | some "tag:yaml.org,2002:int" =>
    match int? v.text.toList with
    | some n => .ok (.int n)
    | none => wrong "an integer"
  | some "tag:yaml.org,2002:float" =>
    match float? v.text with
    | some x => .ok (.float x)
    | none => wrong "a float"
  | some "tag:yaml.org,2002:null" =>
    match v.text, resolve v.text with
    | "", _ => wrong "null"
    | _, .null => .ok .null
    | _, _ => wrong "null"
  | some tag => .ok (if v.form == .plain && tag.startsWith "!" then resolve v.text else .text)
  | none => .ok (if v.form == .plain then resolve v.text else .text)

/-- A scalar by its kind, as messages name it. -/
def kindText (v : Scalar) : Plain → String
  | .null => "unit value"
  | .bool b => s!"boolean `{b}`"
  | .int n =>
    if Number.minInt ≤ n && n ≤ Number.maxNat then s!"integer `{n}`"
    else s!"integer `{n}` as " ++ (if n < 0 then "i128" else "u128")
  | .float x => s!"floating point `{Decimal.plainMarked.render x}`"
  | .text => s!"string {Text.quoted v.text}"

/-- Refuses a node of another kind than `wanted`. -/
def mismatch {α : Type} (n : Node) (wanted : String) (p : Place) : Reading α := do
  match n with
  | .scalar v m =>
    match valueOf v with
    | .error text => shape text m p
    | .ok x => shape s!"invalid type: {kindText v x}, expected {wanted}" m p
  | .sequence _ _ m => shape s!"invalid type: sequence, expected {wanted}" m p
  | .mapping _ _ m => shape s!"invalid type: map, expected {wanted}" m p
  | .void _ => throw .noDocument
  | .alias _ _ | .cut => ended

/-- The text of a scalar, whatever else it might stand for. -/
def text (n : Node) (wanted : String) (p : Place) : Reading String := do
  match ← follow n with
  | .scalar v _ => return v.text
  | n => mismatch n wanted p

/-- The place of a value by its key. -/
def under (p : Place) : Node → Place
  | .scalar v _ => .field p v.text
  | _ => .unnamed p

def anyValue : String := "any valid JSON value"

/-- Tags of other kinds have no meaning here. -/
def refuseTag (tag : Option String) (m : Mark) (p : Place) : Reading Unit := do
  if tag.any (·.startsWith "!") then shape s!"invalid type: enum, expected {anyValue}" m p

def scalarJson (v : Scalar) (m : Mark) (p : Place) : Reading Json := do
  refuseTag v.tag m p
  match valueOf v with
  | .error text => shape text m p
  | .ok .null => return .null
  | .ok (.bool b) => return .bool b
  | .ok (.int n) =>
    if Number.minInt ≤ n && n ≤ Number.maxNat then return .number (.int n)
    else shape "JSON number out of range" m p
  | .ok (.float x) => return if x.isFinite then .number (.float x) else .null
  | .ok .text => return .string v.text

/-- The value of a node, inside at most `depth` more collections. -/
def json : Nat → Place → Node → Reading Json
  | depth, p, n => do
    match ← follow n with
    | .scalar v m => scalarJson v m p
    | .sequence tag items m =>
      refuseTag tag m p
      match depth with
      | 0 => throw (.tooDeep m)
      | depth + 1 =>
        return .array (← items.zipIdx.mapM fun (item, i) => json depth (.item p i) item)
    | .mapping tag entries m =>
      refuseTag tag m p
      match depth with
      | 0 => throw (.tooDeep m)
      | depth + 1 =>
        let fields ← entries.zipIdx.mapM fun ((k, v), i) => do
          let name ← text k (if i == 0 then "a string key" else "a string") p
          return (name, ← json depth (under p k) v)
        return Json.ofFields fields
    | .void _ => return .null
    | .alias _ _ | .cut => ended

end Reading

/-- Reads the only document of a text. -/
def readWith {α : Type} (r : Node → Reading α) (s : String) : Except Fault α := do
  let d := Document.ofString s
  let (a, _) ← ((r d.root).run d).run 0
  match d.fault with
  | some e => .error e
  | none => if d.followed then .error .manyDocuments else .ok a

def parse (s : String) : Except Fault Json :=
  readWith (Reading.json Reading.maxDepth .root) s

end ApiStencil.Yaml
