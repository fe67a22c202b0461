import ApiStencil.Decimal.Read
import ApiStencil.Json.Basic
import ApiStencil.Json.Printer
import ApiStencil.Text.Trim
/-!
Values in templates: how one appears in rendered text, and the ways that lead into it.
-/
set_option autoImplicit false

namespace ApiStencil.Template

def displayNumber : Number → String
  | .int n => toString n
  | .float x => Decimal.plain.render x

mutual

def display : Json → String
  | .null => ""
  | .bool b => if b then "true" else "false"
  | .number n => displayNumber n
  | .string s => s
  | .array items => "[" ++ displayItems items ++ "]"
  | .object _ => "[object]"

def displayItems : List Json → String
  | [] => ""
  | [v] => display v
  | v :: rest => display v ++ ", " ++ displayItems rest

end

/-- Escapes text for markup. -/
def escapeWith (table : List (Char × String)) (s : String) : String :=
  String.join (s.toList.map fun c => (table.lookup c).getD (String.singleton c))

def htmlTable : List (Char × String) :=
  [('&', "&amp;"), ('<', "&lt;"), ('>', "&gt;"), ('"', "&quot;"), ('\'', "&#x27;"), ('/', "&#x2F;")]

def xmlTable : List (Char × String) :=
  [('&', "&amp;"), ('<', "&lt;"), ('>', "&gt;"), ('"', "&quot;"), ('\'', "&apos;")]

def escapeHtml (s : String) : String := escapeWith htmlTable s

def escapeXml (s : String) : String := escapeWith xmlTable s

/-!
Dotted ways into a value. Names are divided by dots and brackets; between quotes both are letters of
the name.
-/

/-- The names of a way; `word` is the open one, last character first. -/
def pointerNames (quote : Option Char) (word : List Char) : List Char → List String
  | [] => if word.isEmpty then [] else [String.ofList word.reverse]
  | c :: rest =>
    let close := if word.isEmpty then [] else [String.ofList word.reverse]
    match quote with
    | some q => if c == q then close ++ pointerNames none [] rest else pointerNames quote (c :: word) rest
    | none =>
      if c == '"' || c == '\'' then close ++ pointerNames (some c) [] rest
      else if c == '.' || c == '[' || c == ']' then close ++ pointerNames none [] rest
      else pointerNames none (c :: word) rest

/-- An index has no sign and no leading zeros. -/
def indexOf? (name : String) : Option Nat :=
  match name.toList with
  | '0' :: _ :: _ => none
  | cs => Decimal.ofBase? 10 cs

def unescaped (name : String) : String :=
  Text.replaceText "~0" "~" (Text.replaceText "~1" "/" name)

def step? (v : Json) (name : String) : Option Json :=
  match v with
  | .object fields => Json.lookup name fields
  | .array items => (indexOf? name).bind fun i => items[i]?
  | _ => none

/-- The value at the end of a way. -/
def follow? (way : String) (v : Json) : Option Json :=
  ((pointerNames none [] way.toList).map unescaped).foldl (fun acc name => acc.bind (step? · name)) (some v)

end ApiStencil.Template
