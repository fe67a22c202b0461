import ApiStencil.Decimal.Read
import ApiStencil.Text.Utf8
import ApiStencil.Yaml.Token.Basic
import ApiStencil.Yaml.Cursor
/-!
Tags, anchors, aliases, and the lines before a document that begin with a percent sign.
-/
set_option autoImplicit false

namespace ApiStencil.Yaml.Tag

/-- Characters of a tag that are no letters. -/
def marks : List Char := ";/?:@&=+$.%!~*'()".toList

def isPart (verbatim : Bool) (c : Char) : Bool :=
  isWord c || marks.contains c || (verbatim && (c == ',' || c == '[' || c == ']'))

/-- How many bytes a character takes whose first byte is `b`. -/
def width? (b : Nat) : Option Nat :=
  if b < 0x80 then some 1
  else if 0xc0 ≤ b && b < 0xe0 then some 2
  else if 0xe0 ≤ b && b < 0xf0 then some 3
  else if 0xf0 ≤ b && b < 0xf8 then some 4
  else none

def octet? (cs : List Char) : Option Nat :=
  match cs with
  | '%' :: a :: b :: _ => Decimal.ofBase? 16 [a, b]
  | _ => none

/-- Bytes behind the first one of a character. -/
def tailOctets (context : String) (since : Mark) : Nat → List Nat → Cursor → Step (List Nat)
  | 0, acc, k => .ok (acc.reverse, k)
  | n + 1, acc, k =>
    match octet? k.rest with
    | none => .error (k.problem "did not find URI escaped octet" context since)
    | some b =>
      if b / 64 != 2 then .error (k.problem "found an incorrect trailing UTF-8 octet" context since)
      else tailOctets context since n (b :: acc) (k.skip 3)

/-- A character written as bytes behind percent signs. -/
def escaped (context : String) (since : Mark) (k : Cursor) : Step (List Char) :=
  match octet? k.rest with
  | none => .error (k.problem "did not find URI escaped octet" context since)
  | some b =>
    match width? b with
    | none => .error (k.problem "found an incorrect leading UTF-8 octet" context since)
    | some n =>
      (tailOctets context since (n - 1) [b] (k.skip 3)).map fun (bs, k) =>
        ((Utf8.lossy (bs.map UInt8.ofNat)).toList, k)

/-- The parts of a tag, in reverse. -/
def parts (verbatim : Bool) (context : String) (since : Mark) : Nat → List Char → Cursor → Step (List Char)
  | 0, acc, k => .ok (acc, k)
  | fuel + 1, acc, k =>
    match k.rest with
    | [] => .ok (acc, k)
    | c :: _ =>
      if !isPart verbatim c then .ok (acc, k)
      else if c == '%' then
        match escaped context since k with
        | .error e => .error e
        | .ok (cs, k) => parts verbatim context since fuel (cs.reverse ++ acc) k
      else parts verbatim context since fuel (c :: acc) k.next

/-- The parts of a tag behind `head`, of which there must be some. -/
def uri (verbatim directive : Bool) (head : List Char) (since : Mark) (k : Cursor) : Step String :=
  let context := if directive then "while parsing a %TAG directive" else "while parsing a tag"
  match parts verbatim context since k.reach [] k with
  | .error e => .error e
  | .ok (acc, k) =>
    if acc.isEmpty && head.isEmpty then .error (k.problem "did not find expected tag URI" context since)
    else .ok (String.ofList (head.drop 1 ++ acc.reverse), k)

/-- A handle: an exclamation mark, and a word with another one where there is such a word. -/
def handle (directive : Bool) (since : Mark) (k : Cursor) : Step (List Char) :=
  if !k.startsWith '!' then
    .error (k.problem "did not find expected '!'"
      (if directive then "while scanning a tag directive" else "while scanning a tag") since)
  else
    let (name, k) := k.next.span isWord
    if k.startsWith '!' then .ok ('!' :: name ++ ['!'], k.next)
    else if directive && !name.isEmpty then
      .error (k.problem "did not find expected '!'" "while parsing a tag directive" since)
    else .ok ('!' :: name, k)

/-- Handle and rest of the tag at the cursor. -/
def pieces (since : Mark) (k : Cursor) : Except Fault ((String × String) × Cursor) :=
  if (k.rest.drop 1).head? == some '<' then do
    let (suffix, k) ← uri true false [] since (k.skip 2)
    if k.startsWith '>' then return (("", suffix), k.next)
    else .error (k.problem "did not find the expected '>'" "while scanning a tag" since)
  else do
    let (h, k) ← handle false since k
    if h.length > 1 && h.getLast? == some '!' then
      let (suffix, k) ← uri false false [] since k
      return ((String.ofList h, suffix), k)
    else
      let (suffix, k) ← uri false false h since k
      return (if suffix.isEmpty then ("", "!") else ("!", suffix), k)

def read (flow : Bool) (k : Cursor) : Except Fault (Token.Kind × Cursor) := do
  let since := k.mark
  let ((handle, suffix), k) ← pieces since k
  if (flow && k.startsWith ',') || Cursor.endsWord k.rest then return (.tag handle suffix, k)
  else .error (k.problem "did not find expected whitespace or line break" "while scanning a tag" since)

/-- The name behind an ampersand or an asterisk. -/
def name (context : String) (k : Cursor) : Step String :=
  let since := k.mark
  let (cs, k) := k.next.span isWord
  if !cs.isEmpty && k.rest.head?.all (fun c => isBlankOrBreak c || "?:,]\x7d%@`".toList.contains c) then
    .ok (String.ofList cs, k)
  else .error (k.problem "did not find expected alphabetic or numeric character" context since)

def versionContext : String := "while scanning a %YAML directive"

def versionNumber (since : Mark) (k : Cursor) : Step Nat :=
  let (ds, behind) := k.span Char.isDigit
  if ds.isEmpty then .error (k.problem "did not find expected version number" versionContext since)
  else if ds.length > 9 then
    .error ((k.skip 9).problem "found extremely long version number" versionContext since)
  else .ok (Decimal.naturalOf ds, behind)

def version (since : Mark) (k : Cursor) : Except Fault (Token.Kind × Cursor) := do
  let (major, k) ← versionNumber since (k.skipWhile isBlank)
  if !k.startsWith '.' then
    .error (k.problem "did not find expected digit or '.' character" versionContext since)
  else
    let (minor, k) ← versionNumber since k.next
    return (.version major minor, k)

def handleRule (since : Mark) (k : Cursor) : Except Fault (Token.Kind × Cursor) := do
  let context := "while scanning a %TAG directive"
  let (h, k) ← handle true since (k.skipWhile isBlank)
  if !k.startsBlank then .error (k.problem "did not find expected whitespace" context since)
  else
    let (lead, k) ← uri true true [] since (k.skipWhile isBlank)
    if Cursor.endsWord k.rest then return (.handle (String.ofList h) lead, k)
    else .error (k.problem "did not find expected whitespace or line break" context since)

/-- The directive whose percent sign stands at the cursor. -/
def directive (k : Cursor) : Except Fault ((Token.Kind × Mark) × Cursor) := do
  let since := k.mark
  let context := "while scanning a directive"
  let (name, k) := k.next.span isWord
  if name.isEmpty then .error (k.problem "could not find expected directive name" context since)
  else if !Cursor.endsWord k.rest then
    .error (k.problem "found unexpected non-alphabetical character" context since)
  else
    let (kind, k) ← match String.ofList name with
      | "YAML" => version since k
      | "TAG" => handleRule since k
      | _ => .error (k.problem "found unknown directive name" context since)
    return ((kind, k.mark), ← k.endLine context since)

end ApiStencil.Yaml.Tag
