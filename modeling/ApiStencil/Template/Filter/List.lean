import ApiStencil.Template.Call
import ApiStencil.Template.Filter.Text
import ApiStencil.Template.Value
import ApiStencil.Text.Case
/-!
Filters on lists.
-/
set_option autoImplicit false

namespace ApiStencil.Template.Filter

def noField (field : String) : CallFault :=
  .said s!"attribute '{field}' does not reference a field"

def needs (filter article name : String) : CallFault :=
  .said s!"The `{filter}` filter has to have {article} `{name}` argument"

/-- The part of an item that a field names; the empty field names the item. -/
def keyOf (field : String) (v : Json) : Answer Json :=
  if field.isEmpty then .ok v
  else match follow? field v with
    | some k => .ok k
    | none => .error (noField field)

def first : Filter := fun v _ =>
  (valueAs .list "first" v).map fun items => items.head?.getD (.string "")

def last : Filter := fun v _ =>
  (valueAs .list "last" v).map fun items => items.getLast?.getD (.string "")

def nth : Filter := fun v args => do
  let items ← valueAs .list "nth" v
  if items.isEmpty then return .string ""
  let n ← argument .size "nth" "n" args (needs "nth" "an" "n")
  pure (items[n]?.getD (.string ""))

def join : Filter := fun v args => do
  let items ← valueAs .list "join" v
  let sep ← argumentOr .string "truncate" "sep" args ""
  pure (.string (String.intercalate (unescapeBreaks sep) (items.map display)))

/-- What items are sorted by. -/
inductive SortKey where
  | bool (b : Bool)
  | number (x : Float)
  | string (s : String)
  | length (n : Nat)

def SortKey.le : SortKey → SortKey → Bool
  | .bool a, .bool b => !a || b
  | .number a, .number b => a ≤ b
  | .string a, .string b => a ≤ b
  | .length a, .length b => a ≤ b
  | _, _ => true

/-- The key of a value that is sorted together with `sample`. -/
def sortKey (sample v : Json) : Answer SortKey :=
  let expected := fun kind : String => (.error (.said s!"expected {kind} got {v.text}") : Answer SortKey)
  match sample, v with
  | .null, _ => .error (.said "Null is not a sortable value")
  | .object _, _ => .error (.said "Object is not a sortable value")
  | .bool _, .bool b => .ok (.bool b)
  | .number _, .number n => .ok (.number n.toFloat)
  | .string _, .string s => .ok (.string s)
  | .array _, .array items => .ok (.length items.length)
  | .bool _, _ => expected "bool"
  | .number _, _ => expected "number"
  | .string _, _ => expected "string"
  | .array _, _ => expected "array"

def sort : Filter := fun v args => do
  let items ← valueAs .list "sort" v
  match items with
  | [] => pure (.array [])
  | head :: _ =>
    let field ← argumentOr .string "sort" "attribute" args ""
    let sample ← keyOf field head
    let _ ← sortKey sample sample
    let keyed ← items.mapM fun item => do
      let key ← keyOf field item
      pure ((← sortKey sample key), item)
    pure (.array ((keyed.mergeSort fun a b => a.1.le b.1).map (·.2)))

def sameKind : Json → Json → Bool
  | .null, .null | .bool _, .bool _ | .number _, .number _ | .string _, .string _ | .array _, .array _
  | .object _, .object _ => true
  | _, _ => false

/-- Why values like `sample` cannot be told apart, if they cannot. -/
def uniqueFault? : Json → Option CallFault
  | .null => some (.said "Null is not a unique value")
  | .number (.float _) => some (.said "Unique floats are not implemented")
  | .array _ => some (.said "Unique arrays are not implemented")
  | .object _ => some (.said "Unique objects are not implemented")
  | .bool _ | .number (.int _) | .string _ => none

/-- What two equal items have in common. -/
def uniqueKey (caseSensitive : Bool) (v : Json) : Answer Json :=
  match v with
  | .string s => .ok (.string (if caseSensitive then s else Text.toLower s))
  | .number n =>
    match n.toInt64? with
    | some _ => .ok v
    | none => .error (.said s!"expected number got {v.text}")
  | _ => .ok v

def uniqueItems (field : String) (caseSensitive : Bool) (sample : Json) :
    List Json → List Json → Answer (List Json)
  | _, [] => .ok []
  | seen, item :: rest => do
    match (if field.isEmpty then some item else follow? field item) with
    | none => uniqueItems field caseSensitive sample seen rest
    | some v =>
      if !sameKind sample v then throw (.said "unique filter can't compare multiple types")
      let key ← uniqueKey caseSensitive v
      if seen.contains key then uniqueItems field caseSensitive sample seen rest
      else return item :: (← uniqueItems field caseSensitive sample (key :: seen) rest)

def unique : Filter := fun v args => do
  let items ← valueAs .list "unique" v
  match items with
  | [] => pure (.array [])
  | head :: _ =>
    let caseSensitive ← argumentOr .bool "unique" "case_sensitive" args false
    let field ← argumentOr .string "unique" "attribute" args ""
    let sample ← keyOf field head
    match uniqueFault? sample with
    | some e => throw e
    | none => return .array (← uniqueItems field caseSensitive sample [] items)

def groupName (key : Json) : String :=
  match key with
  | .string s => s
  | key => key.text

/-- The group with one more item at its end. -/
def addToGroup (name : String) (item : Json) (groups : List (String × Json)) : List (String × Json) :=
  match Json.lookup name groups with
  | some (.array items) => Json.insertField name (.array (items ++ [item])) groups
  | _ => Json.insertField name (.array [item]) groups

def groupBy : Filter := fun v args => do
  let items ← valueAs .list "group_by" v
  if items.isEmpty then return .object []
  let field ← argument .string "group_by" "attribute" args (needs "group_by" "an" "attribute")
  pure (.object (items.foldl (fun groups item =>
    match follow? field item with
    | none | some .null => groups
    | some key => addToGroup (groupName key) item groups) []))

def isNull : Json → Bool
  | .null => true
  | _ => false

def filterItems : Filter := fun v args => do
  let items ← valueAs .list "filter" v
  if items.isEmpty then return .array []
  let field ← argument .string "filter" "attribute" args (needs "filter" "an" "attribute")
  let wanted := (Json.lookup "value" args).getD .null
  pure (.array (items.filter fun item =>
    let part := (follow? field item).getD .null
    if isNull wanted then !isNull part else part == wanted))

def mapItems : Filter := fun v args => do
  let items ← valueAs .list "map" v
  if items.isEmpty then return .array []
  let field ← argument .string "map" "attribute" args (needs "map" "an" "attribute")
  pure (.array (items.filterMap fun item => (follow? field item).filter fun part => !isNull part))

/-- A position in a list; a negative one counts from the end. -/
def positionOf (x : Float) (length : Nat) : Nat :=
  (if x ≥ 0 then x else length.toFloat + x).toUInt64.toNat

def slice : Filter := fun v args => do
  let items ← valueAs .list "slice" v
  if items.isEmpty then return .array []
  let start ← argumentOr .float "slice" "start" args 0
  let stop ← argument? .float "slice" "end" args
  let lo := positionOf start items.length
  let hi := match stop with
    | some x => min (positionOf x items.length) items.length
    | none => items.length
  pure (.array ((items.take hi).drop lo))

def concat : Filter := fun v args => do
  let items ← valueAs .list "concat" v
  match Json.lookup "with" args with
  | none => throw (needs "concat" "a" "with")
  | some (.array more) => pure (.array (items ++ more))
  | some single => pure (.array (items ++ [single]))

end ApiStencil.Template.Filter
