import ApiStencil.Decimal.Layout
import ApiStencil.Json.Basic
import ApiStencil.Text.Quoted
/-!
JSON text of a value, compact or indented by two blanks, and what messages say of a value. Only the quote, the
backslash and control characters are escaped.
-/
set_option autoImplicit false

namespace ApiStencil

def Number.text : Number → String
  | .int n => toString n
  | .float x => Decimal.json.render x

namespace Json

def hexDigit (n : Nat) : Char :=
  if n < 10 then Char.ofNat (48 + n) else Char.ofNat (87 + n)

/-- Four hexadecimal digits. -/
def hex4 (n : Nat) : List Char :=
  [hexDigit (n / 4096 % 16), hexDigit (n / 256 % 16), hexDigit (n / 16 % 16), hexDigit (n % 16)]

def escapeChar (c : Char) : List Char :=
  if c == '"' then ['\\', '"']
  else if c == '\\' then ['\\', '\\']
  else if c == '\n' then ['\\', 'n']
  else if c == '\r' then ['\\', 'r']
  else if c == '\t' then ['\\', 't']
  else if c == '\x08' then ['\\', 'b']
  else if c == '\x0c' then ['\\', 'f']
  else if c.toNat < 32 then '\\' :: 'u' :: hex4 c.toNat
  else [c]

def quote (s : String) : String :=
  String.ofList ('"' :: s.toList.flatMap escapeChar ++ ['"'])

mutual

def text : Json → String
  | .null => "null"
  | .bool b => if b then "true" else "false"
  | .number n => n.text
  | .string s => quote s
  | .array items => "[" ++ textItems items ++ "]"
  | .object fields => "\x7b" ++ textFields fields ++ "\x7d"

def textItems : List Json → String
  | [] => ""
  | [v] => text v
  | v :: rest => text v ++ "," ++ textItems rest

def textFields : List (String × Json) → String
  | [] => ""
  | [(n, v)] => quote n ++ ":" ++ text v
  | (n, v) :: rest => quote n ++ ":" ++ text v ++ "," ++ textFields rest

end

def newline (depth : Nat) : String :=
  "\n" ++ String.ofList (List.replicate (2 * depth) ' ')

mutual

def pretty (depth : Nat) : Json → String
  | .array [] => "[]"
  | .object [] => "\x7b\x7d"
  | .array items => "[" ++ prettyItems (depth + 1) items ++ newline depth ++ "]"
  | .object fields => "\x7b" ++ prettyFields (depth + 1) fields ++ newline depth ++ "\x7d"
  | .null => "null"
  | .bool b => if b then "true" else "false"
  | .number n => n.text
  | .string s => quote s

def prettyItems (depth : Nat) : List Json → String
  | [] => ""
  | [v] => newline depth ++ pretty depth v
  | v :: rest => newline depth ++ pretty depth v ++ "," ++ prettyItems depth rest

def prettyFields (depth : Nat) : List (String × Json) → String
  | [] => ""
  | [(n, v)] => newline depth ++ quote n ++ ": " ++ pretty depth v
  | (n, v) :: rest =>
    newline depth ++ quote n ++ ": " ++ pretty depth v ++ "," ++ prettyFields depth rest

end

/-- A value by its kind, as messages name it where another kind is wanted. -/
def kindText : Json → String
  | .null => "null"
  | .bool b => s!"boolean `{b}`"
  | .number (.int n) => s!"integer `{n}`"
  | .number (.float x) => s!"floating point `{Decimal.yaml.render x}`"
  | .string s => s!"string {Text.quoted s}"
  | .array _ => "sequence"
  | .object _ => "map"

def mismatchText (v : Json) (wanted : String) : String :=
  s!"invalid type: {v.kindText}, expected {wanted}"

end Json
end ApiStencil
