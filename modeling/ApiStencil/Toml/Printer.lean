import ApiStencil.Toml.Scan
/-!
Writing TOML. A text is written without escapes where some kind of quotes allows it, on one line if it can
be, between double quotes if they do.
-/
set_option autoImplicit false

namespace ApiStencil.Toml

/-- A character that is only written by an escape. -/
def isCode (c : Char) : Bool :=
  (c.toNat < 32 && c != '\t' && c != '\n') || c.toNat == 127

/-- The longest run of a character, in a text behind `n` of it. -/
def longestRun (mark : Char) (n : Nat) : List Char → Nat
  | [] => n
  | c :: rest => if c == mark then longestRun mark (n + 1) rest else max n (longestRun mark 0 rest)

namespace Quote

/-- How many quotes may stand together within such quotes. -/
def maxRun (q : Quote) : Nat := if q.multiline then 2 else 0

/-- Whether such quotes hold a text without escapes. -/
def suits (q : Quote) (cs : List Char) : Bool :=
  !cs.any isCode && !(q.escapes && cs.contains '\\') && longestRun q.mark 0 cs ≤ q.maxRun &&
    (q.multiline || !cs.contains '\n')

def all : List Quote := [⟨'"', false⟩, ⟨'\'', false⟩, ⟨'"', true⟩, ⟨'\'', true⟩]

def ofText (cs : List Char) : Quote :=
  (all.find? fun q => q.suits cs).getD ⟨'"', cs.contains '\n'⟩

def marks (q : Quote) : List Char := List.replicate (if q.multiline then 3 else 1) q.mark

end Quote

def hexDigits4 (n : Nat) : List Char :=
  let ds := (Nat.toDigits 16 n).map Char.toUpper
  List.replicate (4 - ds.length) '0' ++ ds

/-- A character other than a double quote, between double quotes. -/
def escape (multiline : Bool) (c : Char) : List Char :=
  match c with
  | '\x08' => ['\\', 'b']
  | '\t' => ['\\', 't']
  | '\n' => if multiline then ['\n'] else ['\\', 'n']
  | '\x0c' => ['\\', 'f']
  | '\r' => ['\\', 'r']
  | '\\' => ['\\', '\\']
  | c => if c.toNat < 32 || c.toNat == 127 then '\\' :: 'u' :: hexDigits4 c.toNat else [c]

/-- A text between double quotes, behind `n` of them. -/
def escapeText (q : Quote) (n : Nat) : List Char → List Char
  | [] => []
  | '"' :: rest =>
    if n < q.maxRun then '"' :: escapeText q (n + 1) rest else '\\' :: '"' :: escapeText q 0 rest
  | c :: rest => escape q.multiline c ++ escapeText q 0 rest

def renderText (s : String) : String :=
  let cs := s.toList
  let q := Quote.ofText cs
  let first := if q.multiline && cs.contains '\n' then ['\n'] else []
  let body := if q.escapes then escapeText q 0 cs else cs
  String.ofList (q.marks ++ first ++ body ++ q.marks)

/-- An array of texts: one item or none on a line, more on lines of their own. -/
def renderTexts (items : List String) : String :=
  match items with
  | [] | [_] => "[" ++ String.intercalate ", " (items.map renderText) ++ "]"
  | _ => "[\n" ++ String.join (items.map fun s => s!"    {renderText s},\n") ++ "]"

end ApiStencil.Toml
