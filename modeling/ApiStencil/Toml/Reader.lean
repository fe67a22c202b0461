import ApiStencil.Toml.Scan
import ApiStencil.Toml.Value
/-!
Reading TOML: a text is a list of statements, each on a line of its own, that add to the tables under
the headers.
-/
set_option autoImplicit false

namespace ApiStencil.Toml
namespace Reader

def isBare (c : Char) : Bool := c.isAlphanum || c == '-' || c == '_'

/-- A key without quotes. -/
def bareKey : Reader String := fun cs =>
  let name := cs.takeWhile isBare
  if name.isEmpty then .error ⟨"invalid key", cs⟩ else .ok (String.ofList name, cs.drop name.length)

def simpleKey : Reader String := do
  match ← peek with
  | some '"' | some '\'' => lineText
  | _ => bareKey

/-- The most keys in a path, and the most values inside one another. -/
def maxDepth : Nat := 79

/-- Keys with dots between them, up to `n`. -/
def keys : Nat → Reader (List String)
  | 0 => stop "recursion limit exceeded"
  | n + 1 => do
    blanks
    let k ← simpleKey
    blanks
    match ← get with
    | '.' :: rest =>
      set rest
      return k :: (← keys n)
    | _ => return [k]

/-- A path and its last key. -/
def key : Reader (List String × String) := do
  let ks ← keys maxDepth
  return (ks.dropLast, ks.getLast?.getD "")

def isWordPart (c : Char) : Bool := isBare c || c == '+' || c == '.' || c == ':'

/-- The characters of a value without quotes or brackets. A space parts a date and a time. -/
def word (cs : List Char) : List Char :=
  let front := cs.takeWhile isWordPart
  match cs.drop front.length with
  | ' ' :: d :: rest =>
    if d.isDigit && (Moment.date? front).any List.isEmpty then front ++ ' ' :: (d :: rest).takeWhile isWordPart
    else front
  | _ => front

def wordValue? (cs : List Char) : Option Value :=
  match String.ofList cs with
  | "true" => some (.bool true)
  | "false" => some (.bool false)
  | s =>
    if Moment.isValid cs then some (.moment s)
    else ((integer? cs).map Value.integer).or ((float? cs).map Value.float)

def wordValue : Reader Value := fun cs =>
  let w := word cs
  match wordValue? w with
  | some v => .ok (v, cs.drop w.length)
  | none => .error ⟨"invalid value", cs⟩

/-- Items up to the end of an array, with commas between them and perhaps behind the last one. -/
def items (value : Reader Value) : Nat → Reader (List Value)
  | 0 => stop "invalid array"
  | fuel + 1 => do
    space
    match ← get with
    | ']' :: rest =>
      set rest
      return []
    | _ =>
      let v ← value
      space
      match ← get with
      | ',' :: rest =>
        set rest
        return v :: (← items value fuel)
      | _ =>
        char ']'
        return [v]

/-- Adds to a table what a statement says, unless a key stands against it. -/
def change (f : Entries.Change) (origin : Origin) (es : Entries) : Reader Entries := do
  match f origin es with
  | .ok es => return es
  | .error k => stop s!"duplicate key `{k}`"

/-- A key, its value and the blanks behind it, added to a table under `path`. -/
def pair (value : Reader Value) (under : List String) (origin : Origin) (es : Entries) : Reader Entries := do
  let (path, k) ← key
  char '='
  blanks
  let v ← value
  blanks
  change (Entries.under false (Entries.add path k v) under) origin es

/-- Pairs up to the end of a table that is a value, with commas between them. -/
def pairs (value : Reader Value) : Nat → Entries → Reader Entries
  | 0, _ => stop "invalid inline table"
  | fuel + 1, es => do
    let es ← pair value [] .inline es
    match ← get with
    | ',' :: rest =>
      set rest
      pairs value fuel es
    | _ =>
      char '\x7d'
      return es

/-- A value, with at most so many arrays and tables inside one another. -/
def value : Nat → Reader Value
  | 0 => do
    match ← peek with
    | some '[' | some '\x7b' => stop "recursion limit exceeded"
    | some '"' | some '\'' => return .text (← text)
    | _ => wordValue
  | levels + 1 => do
    let cs ← get
    match cs with
    | '[' :: rest =>
      set rest
      return .array (← items (value levels) cs.length)
    | '\x7b' :: rest =>
      set (rest.dropWhile isBlank)
      match ← get with
      | '\x7d' :: rest =>
        set rest
        return .table .inline []
      | _ => return .table .inline (← pairs (value levels) cs.length [])
    | '"' :: _ | '\'' :: _ => return .text (← text)
    | _ => wordValue

/-- A header with the change that it makes. -/
def header (es : Entries) : Reader (List String × Entries) := do
  match ← get with
  | '[' :: '[' :: rest =>
    set rest
    let (path, k) ← key
    char ']'
    char ']'
    lineEnd
    return (path ++ [k], ← change (Entries.under false (Entries.appendTable k) path) .header es)
  | _ =>
    char '['
    let (path, k) ← key
    char ']'
    lineEnd
    return (path ++ [k], ← change (Entries.under false (Entries.openTable k) path) .header es)

/-- Statements up to the end of the text, those on keys under the header that stands before them. -/
def statements : Nat → List String → Entries → Reader Entries
  | 0, _, _ => stop "expected end of input"
  | fuel + 1, path, es => do
    space
    match ← peek with
    | none => return es
    | some '[' =>
      let (path, es) ← header es
      statements fuel path es
    | some _ =>
      let es ← pair (value maxDepth) path .header es
      lineEnd
      statements fuel path es

end Reader

/-- The table that a text stands for. -/
def parse (s : String) : Except Fault Entries :=
  let cs := s.toList
  let body := if cs.head? == some '\ufeff' then cs.drop 1 else cs
  match Reader.statements (cs.length + 1) [] [] body with
  | .ok (es, _) => .ok es
  | .error e => .error (e.fault cs)

end ApiStencil.Toml
