import ApiStencil.Config.Settings
import ApiStencil.Json.Printer
import ApiStencil.Json.Skip
/-!
Settings in JSON text: an object with a field for each setting, or an array of all of them in their
order. Other fields are passed over.
-/
set_option autoImplicit false

namespace ApiStencil.Config.JsonText
open Json Json.Reader

/-- The fault of a value that is of another kind than `wanted`. A value with parts is not read. -/
def mismatch (wanted : String) (k : Cursor) : Fault :=
  let told := fun (v : Json) (k : Cursor) => k.here (.shape (v.mismatchText wanted))
  match k.rest with
  | '[' :: _ => told (.array []) k
  | '\x7b' :: _ => told (.object []) k
  | _ =>
    match value 1 0 k with
    | .ok (v, k) => told v k
    | .error e => e

def text (k : Cursor) : Step String :=
  match k.rest with
  | '"' :: _ => key k
  | _ => .error (mismatch "a string" k)

def flag (k : Cursor) : Step Bool :=
  match k.rest with
  | 't' :: rest => (ident (k.past 't' rest) "rue".toList).map fun (_, k) => (true, k)
  | 'f' :: rest => (ident (k.past 'f' rest) "alse".toList).map fun (_, k) => (false, k)
  | _ => .error (mismatch "a boolean" k)

def startsNumber (k : Cursor) : Bool := k.rest.head?.any fun c => c == '-' || c.isDigit

def natural (k : Cursor) : Step Nat :=
  if !startsNumber k then .error (mismatch "u64" k)
  else
    match value 1 0 k with
    | .error e => .error e
    | .ok (.number (.int n), k) =>
      if 0 ≤ n then .ok (n.toNat, k)
      else .error (k.here (.shape s!"invalid value: integer `{n}`, expected u64"))
    | .ok (v, k) => .error (k.here (.shape (v.mismatchText "u64")))

def count (k : Cursor) : Step (Option Nat) :=
  match k.rest with
  | 'n' :: rest => (ident (k.past 'n' rest) "ull".toList).map fun (_, k) => (none, k)
  | _ => (natural k).map fun (n, k) => (some n, k)

def textItems : Nat → Bool → List String → Cursor → Step (List String)
  | 0, _, _, k => .error (k.here .endInList)
  | fuel + 1, first, acc, k =>
    match nextItem first k with
    | .error e => .error e
    | .ok (false, k) => .ok (acc.reverse, k.drop 1)
    | .ok (true, k) =>
      match text k with
      | .error e => .error e
      | .ok (s, k) => textItems fuel false (s :: acc) k

def texts (k : Cursor) : Step (List String) :=
  match k.rest with
  | '[' :: rest => textItems (k.rest.length + 1) true [] (k.past '[' rest)
  | _ => .error (mismatch "a sequence" k)

/-- The value of a setting, behind white space. -/
def setting (kind : Kind) (k : Cursor) : Step Setting :=
  let k := k.skipSpace
  match kind with
  | .text => (text k).map fun (s, k) => (.text s, k)
  | .flag => (flag k).map fun (b, k) => (.flag b, k)
  | .texts => (texts k).map fun (xs, k) => (.texts xs, k)
  | .count => (count k).map fun (n, k) => (.count n, k)

/-- The place of a fault in an object as a whole: behind its end, if that comes next. -/
def behindEnd (k : Cursor) : Cursor :=
  let k := k.skipSpace
  if k.rest.head? == some '\x7d' then k.drop 1 else k

/-- The value of a field behind its name. -/
def field (name : String) (acc : Settings) (k : Cursor) : Step Settings :=
  match Key.ofName? name with
  | none =>
    match colon k with
    | .error e => .error e
    | .ok (_, k) => (skip k).map fun (_, k) => (acc, k)
  | some key =>
    if (acc.lookup key).isSome then .error ((behindEnd k).here (.shape (duplicateText key)))
    else
      match colon k with
      | .error e => .error e
      | .ok (_, k) => (setting key.kind k).map fun (s, k) => ((key, s) :: acc, k)

def objectFields : Nat → Bool → Settings → Cursor → Step Settings
  | 0, _, _, k => .error (k.here .endInObject)
  | fuel + 1, first, acc, k =>
    match nextField first k with
    | .error e => .error e
    | .ok (false, k) => .ok (acc, k.drop 1)
    | .ok (true, k) =>
      match key k with
      | .error e => .error e
      | .ok (name, k) =>
        match field name acc k with
        | .error e => .error e
        | .ok (acc, k) => objectFields fuel false acc k

/-- Nothing may follow the last setting of an array. -/
def endItems (k : Cursor) : Step Unit :=
  let k := k.skipSpace
  match k.rest with
  | [] => .error (k.ahead .endInList)
  | ']' :: _ => .ok ((), k.drop 1)
  | ',' :: _ =>
    let k := (k.drop 1).skipSpace
    .error (k.ahead (if k.rest.head? == some ']' then .trailingComma else .trailingCharacters))
  | _ => .error (k.ahead .trailingCharacters)

/-- The settings of an array from the number `n` on. -/
def arrayItems (n : Nat) (acc : Settings) (k : Cursor) : List Key → Step Settings
  | [] => (endItems k).map fun (_, k) => (acc, k)
  | key :: rest =>
    match nextItem (n == 0) k with
    | .error e => .error e
    | .ok (false, k) =>
      if key.hasDefault then arrayItems n acc k rest
      else .error ((k.drop 1).here (.shape s!"invalid length {n}, expected struct Config with 7 elements"))
    | .ok (true, k) =>
      match setting key.kind k with
      | .error e => .error e
      | .ok (s, k) => arrayItems (n + 1) ((key, s) :: acc) k rest

def settings (k : Cursor) : Step Settings :=
  let k := k.skipSpace
  match k.rest with
  | '\x7b' :: rest => objectFields (k.rest.length + 1) true [] (k.past '\x7b' rest)
  | '[' :: rest => arrayItems 0 [] (k.past '[' rest) Key.all
  | _ => .error (mismatch "struct Config" k)

/-- The configuration in a text. -/
def parse (s : String) : Except Fault Config :=
  match settings (Cursor.ofString s) with
  | .error e => .error e
  | .ok (found, k) =>
    match ofSettings found with
    | .error key => .error (k.here (.shape (missingText key)))
    | .ok c => finish c k

def render (c : Config) : String := (Json.object c.fields).pretty 0

end ApiStencil.Config.JsonText
