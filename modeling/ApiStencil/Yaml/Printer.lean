import ApiStencil.Json.Basic
import ApiStencil.Decimal.Layout
import ApiStencil.Text.Quoted
import ApiStencil.Yaml.Character
import ApiStencil.Yaml.Scalar
/-!
YAML text of a value in block style. A scalar stands plain where it reads back as the same text, else
between quotes; a text of several lines is a literal block.
-/
set_option autoImplicit false

namespace ApiStencil.Yaml

/-- How a scalar is written. -/
inductive Style where
  | plain
  | single
  | double
  | literal
  deriving DecidableEq

def isPrintable (c : Char) : Bool :=
  let n := c.toNat
  c == '\n' || (32 ≤ n && n ≤ 126) || (0xa0 ≤ n && n != 0xfeff && n != 0xfffe && n != 0xffff)

/-- Whether an indicator at the front forbids a plain scalar. -/
def startsWithIndicator (cs : List Char) : Bool :=
  match cs with
  | [] => false
  | c :: rest =>
    "#,[]\x7b\x7d&*!|>'\"%@`".toList.contains c ||
      ((c == '?' || c == ':' || c == '-') && rest.head?.all isBlankOrBreak) ||
      (Text.dropText? "---".toList cs).isSome || (Text.dropText? "...".toList cs).isSome

/-- Whether a colon before a blank or a hash behind one stands further on. -/
def holdsIndicator (spaceBefore : Bool) : List Char → Bool
  | [] => false
  | c :: rest =>
    (c == ':' && rest.head?.all isBlankOrBreak) || (c == '#' && spaceBefore) ||
      holdsIndicator (isBlankOrBreak c) rest

def hasPair (p q : Char → Bool) : List Char → Bool
  | a :: b :: rest => (p a && q b) || hasPair p q (b :: rest)
  | _ => false

def isSpace (c : Char) : Bool := c == ' '

/-- Which styles keep a text as it is. -/
structure Allowed where
  plain : Bool
  single : Bool
  literal : Bool

def allowed (cs : List Char) : Allowed :=
  match cs with
  | [] => ⟨true, true, false⟩
  | c :: rest =>
    let last := cs.getLast?.getD c
    let special := !cs.all isPrintable || hasPair isSpace isBreak cs
    let breakThenSpace := hasPair isBreak isSpace cs
    let edges := [c, last].any fun c => isSpace c || isBreak c
    ⟨!edges && !breakThenSpace && !special && !cs.any isBreak && !startsWithIndicator cs &&
        !holdsIndicator (isBlankOrBreak c) rest,
      !breakThenSpace && !special,
      !isSpace last && !special⟩

/-- A text that would be taken for something else has to be quoted. -/
def wanted (s : String) : Style :=
  if s.toList.contains '\n' then .literal
  else match resolve s with
    | .text => if digitsButNoNumber s.toList then .single else .plain
    | _ => .single

/-- The style of a scalar; a simple key stays on one line. -/
def styleOf (simpleKey : Bool) (s : String) : Style :=
  let cs := s.toList
  let a := allowed cs
  let style : Style :=
    if simpleKey && cs.any isBreak then .double
    else match wanted s with
      | .plain => if a.plain && !(simpleKey && cs.isEmpty) then .plain else .single
      | style => style
  match style with
  | .single => if a.single then .single else .double
  | .literal => if a.literal && !simpleKey then .literal else .double
  | style => style

def hexPadded (width n : Nat) : String :=
  let ds := (Nat.toDigits 16 n).map Char.toUpper
  String.ofList (List.replicate (width - ds.length) '0' ++ ds)

def escapes : List (Char × String) :=
  [('\x00', "0"), ('\x07', "a"), ('\x08', "b"), ('\t', "t"), ('\n', "n"), ('\x0b', "v"), ('\x0c', "f"),
    ('\r', "r"), ('\x1b', "e"), ('"', "\""), ('\\', "\\"), ('\u0085', "N"), ('\u00a0', "_"),
    ('\u2028', "L"), ('\u2029', "P")]

def doubleChar (c : Char) : String :=
  if isPrintable c && !isBreak c && c != '"' && c != '\\' then String.singleton c
  else match escapes.lookup c with
    | some e => "\\" ++ e
    | none =>
      let n := c.toNat
      if n ≤ 0xff then "\\x" ++ hexPadded 2 n
      else if n ≤ 0xffff then "\\u" ++ hexPadded 4 n
      else "\\U" ++ hexPadded 8 n

def spaces (n : Nat) : String :=
  String.ofList (List.replicate n ' ')

/-- The lines of a text, indented behind each break unless they are empty. -/
def indented (indent : Nat) : Bool → List Char → List Char
  | _, [] => []
  | fresh, c :: rest =>
    (if fresh && !isBreak c then List.replicate indent ' ' else []) ++ c :: indented indent (isBreak c) rest

/-- The text between single quotes. Breaks that are no line feeds may stand in it; the quote behind one is
indented as well. -/
def singleQuoted (indent : Nat) (s : String) : String :=
  let cs := s.toList.flatMap fun c => if c == '\'' then ['\'', '\''] else [c]
  String.ofList ('\'' :: indented indent false (cs ++ ['\'']))

def doubleQuoted (s : String) : String :=
  "\"" ++ String.join (s.toList.map doubleChar) ++ "\""

/-- What follows the bar of a literal block: the indentation where the text hides it, and what becomes
of the breaks at the end. -/
def literalHints (cs : List Char) : String :=
  let indentation := match cs with
    | c :: _ => if isSpace c || isBreak c then "2" else ""
    | [] => ""
  let chomping := match cs.reverse with
    | [] => "-"
    | [c] => if isBreak c then "+" else "-"
    | c :: d :: _ => if !isBreak c then "-" else if isBreak d then "+" else ""
  indentation ++ chomping

/-- The lines of a literal block, each indented unless it is empty. -/
def literalLines (indent : Nat) (s : String) : String :=
  "\n" ++ String.ofList (indented indent true s.toList)

def scalarText (indent : Nat) (simpleKey : Bool) (s : String) : String :=
  match styleOf simpleKey s with
  | .plain => s
  | .single => singleQuoted indent s
  | .double => doubleQuoted s
  | .literal => "|" ++ literalHints s.toList ++ literalLines indent s

/-- Ends the last line of a text, unless a literal block has done so with a break of its own. -/
def closeLine (s : String) : String :=
  if s.toList.getLast?.any isBreak then s else s ++ "\n"

def maxSimpleKey : Nat := 128

/-- A key that stands before its colon on one line. -/
def isSimpleKey (s : String) : Bool :=
  s.utf8ByteSize ≤ maxSimpleKey && !s.toList.any isBreak

def numberText : Number → String
  | .int n => toString n
  | .float x => Decimal.yaml.render x

/-- Whether a value starts lines of its own below its key. -/
def isBlock : Json → Bool
  | .array items => !items.isEmpty
  | .object fields => !fields.isEmpty
  | _ => false

mutual

/-- A value whose lines are indented by `indent`; the first one is not indented here. -/
def block (indent : Nat) : Json → String
  | .null => "null"
  | .bool b => if b then "true" else "false"
  | .number n => numberText n
  | .string s => scalarText (if indent == 0 then 2 else indent) false s
  | .array [] => "[]"
  | .array items => blockItems indent items
  | .object [] => "\x7b\x7d"
  | .object fields => blockFields indent fields

/-- Items stand behind hyphens, two columns further in. -/
def blockItems (indent : Nat) : List Json → String
  | [] => ""
  | [v] => "- " ++ block (indent + 2) v
  | v :: rest => closeLine ("- " ++ block (indent + 2) v) ++ spaces indent ++ blockItems indent rest

/-- The items of an array stand in the same column as the key, the fields of an object further in. -/
def blockFields (indent : Nat) : List (String × Json) → String
  | [] => ""
  | (name, v) :: rest =>
    let simple := isSimpleKey name
    let key := if simple then scalarText (indent + 2) true name ++ ":"
      else closeLine ("? " ++ scalarText (indent + 2) false name) ++ spaces indent ++ ":"
    let inner := if simple then (match v with | .array _ => indent | _ => indent + 2) else indent + 2
    let gap := if simple && isBlock v then "\n" ++ spaces inner else " "
    let line := key ++ gap ++ block inner v
    match rest with
    | [] => line
    | _ :: _ => closeLine line ++ spaces indent ++ blockFields indent rest

end

/-- The text of a document. -/
def text (v : Json) : String :=
  closeLine (block 0 v)

end ApiStencil.Yaml
