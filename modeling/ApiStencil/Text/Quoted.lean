import ApiStencil.Text.Class
import ApiStencil.Text.Utf8
/-!
A text between double quotes, for people to read: quotes, backslashes and what does not print are
escaped.
-/
set_option autoImplicit false

namespace ApiStencil.Text

/-- A character with a visible form. -/
def isPrintable (c : Char) : Bool :=
  if c.toNat < 128 then 32 ≤ c.toNat && c.toNat < 127
  else isAlphanumeric c || isMark c || Span.member Table.punctuation c || Span.member Table.symbol c

def hexOf (n : Nat) : String :=
  String.ofList (Nat.toDigits 16 n)

def quotedChar (c : Char) : String :=
  if c == '"' then "\\\""
  else if c == '\\' then "\\\\"
  else if c == '\n' then "\\n"
  else if c == '\r' then "\\r"
  else if c == '\t' then "\\t"
  else if c == '\x00' then "\\0"
  else if !isPrintable c || Span.member Table.graphemeExtend c then
    "\\u\x7b" ++ hexOf c.toNat ++ "\x7d"
  else String.singleton c

def quoted (s : String) : String :=
  "\"" ++ String.join (s.toList.map quotedChar) ++ "\""

def hexByte (b : UInt8) : String :=
  let ds := (hexOf b.toNat).toUpper
  if b < 16 then "0" ++ ds else ds

/-- A text of bytes between quotes; the bytes of a malformed sequence are written in hexadecimal. -/
def quotedBytes (bs : Bytes) : String :=
  "\"" ++ String.join ((Utf8.scan bs).map fun (c, raw) =>
    match c with
    | some c => quotedChar c
    | none => String.join (raw.map fun b => "\\x" ++ hexByte b)) ++ "\""

end ApiStencil.Text
