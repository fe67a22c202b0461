import ApiStencil.Decimal.Read
import ApiStencil.Yaml.Cursor
/-!
The texts of scalars, in the three ways to write them.
-/
set_option autoImplicit false

/-!
Scalars without quotes. They end at a colon before white space, at a comment, where a line is not
indented enough, and inside brackets at their marks.
-/

namespace ApiStencil.Yaml.Plain

def flowMarks : List Char := [',', '[', ']', '\x7b', '\x7d']

/-- Whether something other than white space ends the scalar here. -/
def endsAt (flow : Bool) : List Char → Bool
  | [] => true
  | c :: rest => (c == ':' && Cursor.endsWord rest) || (flow && flowMarks.contains c)

/-- Whether a colon stands before a mark, which is neither an end nor a part of the scalar. -/
def isClash (flow : Bool) : List Char → Bool
  | ':' :: c :: _ => flow && (c == '?' || flowMarks.contains c)
  | _ => false

/-- Characters up to white space or the end of the scalar, in reverse. -/
def word (flow : Bool) (since : Mark) (acc : List Char) (m : Mark) : List Char → Step (List Char)
  | [] => .ok (acc, ⟨[], m⟩)
  | c :: rest =>
    let k : Cursor := ⟨c :: rest, m⟩
    if isBlankOrBreak c then .ok (acc, k)
    else if isClash flow (c :: rest) then
      .error (k.problem "found unexpected ':'" "while scanning a plain scalar" since)
    else if endsAt flow (c :: rest) then .ok (acc, k)
    else word flow since (c :: acc) m.next rest

/-- Words and the white space between them, in reverse. The gap is what has been read before the next
word; at the end it does not belong to the scalar, and it tells whether a line has ended. -/
def body (flow : Bool) (margin : Nat) (since : Mark) : Nat → List Char → Gap → Cursor → Step (List Char × Bool)
  | 0, acc, g, k => .ok ((acc, g.broken), k)
  | fuel + 1, acc, g, k =>
    if k.atDocumentRule || k.startsWith '#' then .ok ((acc, g.broken), k)
    else
      match word flow since [] k.mark k.rest with
      | .error e => .error e
      | .ok ([], k) => .ok ((acc, g.broken), k)
      | .ok (w, k) =>
        let acc := w ++ g.text.reverse ++ acc
        if !k.rest.head?.any isBlankOrBreak then .ok ((acc, false), k)
        else
          let (g, k) := Gap.read margin .empty k.mark k.rest
          match g.tab with
          | some m =>
            .error (.malformed "found a tab character that violates indentation" m
              (some ("while scanning a plain scalar", since)))
          | none =>
            if !flow && k.mark.column < margin then .ok ((acc, g.broken), k)
            else body flow margin since fuel acc g k

/-- The text of the scalar at the cursor, and whether a line has ended behind it. -/
def read (flow : Bool) (margin : Nat) (k : Cursor) : Step (String × Bool) :=
  match body flow margin k.mark k.reach [] .empty k with
  | .error e => .error e
  | .ok ((acc, broken), k) => .ok ((String.ofList acc.reverse, broken), k)

end ApiStencil.Yaml.Plain

/-!
Scalars between quotes. Between single quotes only the quote itself is written in another way, as two
of them; between double quotes a backslash begins an escape.
-/

namespace ApiStencil.Yaml.Quoted

def scanning : String := "while scanning a quoted scalar"

def parsing : String := "while parsing a quoted scalar"

/-- Escapes that stand for one character. -/
def shortEscapes : List (Char × Char) :=
  [('0', '\x00'), ('a', '\x07'), ('b', '\x08'), ('t', '\t'), ('\t', '\t'), ('n', '\n'), ('v', '\x0b'),
    ('f', '\x0c'), ('r', '\r'), ('e', '\x1b'), (' ', ' '), ('"', '"'), ('/', '/'), ('\\', '\\'),
    ('N', '\u0085'), ('_', '\u00a0'), ('L', '\u2028'), ('P', '\u2029')]

/-- How many digits the number of a character has behind an escape. -/
def digitCount? : Char → Option Nat
  | 'x' => some 2
  | 'u' => some 4
  | 'U' => some 8
  | _ => none

/-- The character with a number of `n` digits. -/
def numbered (since : Mark) (n : Nat) (k : Cursor) : Step Char :=
  let ds := k.rest.take n
  match if ds.length == n then Decimal.ofBase? 16 ds else none with
  | none => .error (k.problem "did not find expected hexadecimal number" parsing since)
  | some v =>
    if v.isValidChar then .ok (Char.ofNat v, k.skip n)
    else .error (k.problem "found invalid Unicode character escape code" parsing since)

/-- The escape whose backslash stands at the cursor. -/
def escape (since : Mark) (k : Cursor) : Step Char :=
  match k.rest.drop 1 with
  | [] => .error (k.problem "found unknown escape character" parsing since)
  | c :: _ =>
    match shortEscapes.lookup c, digitCount? c with
    | some d, _ => .ok (d, k.skip 2)
    | none, some n => numbered since n (k.skip 2)
    | none, none => .error (k.problem "found unknown escape character" parsing since)

def quote (single : Bool) : Char := if single then '\'' else '"'

/-- Characters up to white space, an escaped break or the closing quote, in reverse; the flag tells of
an escaped break. -/
def word (single : Bool) (since : Mark) : Nat → List Char → Cursor → Step (List Char × Bool)
  | 0, acc, k => .ok ((acc, false), k)
  | fuel + 1, acc, k =>
    match k.rest with
    | [] => .ok ((acc, false), k)
    | c :: rest =>
      if isBlankOrBreak c then .ok ((acc, false), k)
      else if single && c == '\'' && rest.head? == some '\'' then word single since fuel ('\'' :: acc) (k.skip 2)
      else if c == quote single then .ok ((acc, false), k)
      else if !single && c == '\\' then
        match k.next.lineBreak? with
        | some (_, k) => .ok ((acc, true), k)
        | none =>
          match escape since k with
          | .error e => .error e
          | .ok (d, k) => word single since fuel (d :: acc) k
      else word single since fuel (c :: acc) k.next

/-- Words and the white space between them, in reverse, up to the closing quote. -/
def body (single : Bool) (since : Mark) : Nat → List Char → Cursor → Step (List Char)
  | 0, _, k => .error (k.problem "found unexpected end of stream" scanning since)
  | fuel + 1, acc, k =>
    if k.atDocumentRule then .error (k.problem "found unexpected document indicator" scanning since)
    else if k.rest.isEmpty then .error (k.problem "found unexpected end of stream" scanning since)
    else
      match word single since k.reach acc k with
      | .error e => .error e
      | .ok ((acc, broken), k) =>
        if k.startsWith (quote single) then .ok (acc, k.next)
        else
          let (g, k) := Gap.read 0 { Gap.empty with broken } k.mark k.rest
          body single since fuel (g.text.reverse ++ acc) k

/-- The text of the scalar whose quote stands at the cursor. -/
def read (single : Bool) (k : Cursor) : Step String :=
  match body single k.mark k.reach [] k.next with
  | .error e => .error e
  | .ok (acc, k) => .ok (String.ofList acc.reverse, k)

end ApiStencil.Yaml.Quoted

/-!
Scalars of several lines below a bar, which keeps the lines, or an angle, which joins them. The first
line says what becomes of the breaks at the end.
-/

namespace ApiStencil.Yaml.Block

def scanning : String := "while scanning a block scalar"

inductive Chomping where
  | strip
  | clip
  | keep

/-- What the first line says: the end of the text, and the indentation where it is given. -/
structure Header where
  chomping : Chomping
  increment : Nat

def chomping? (k : Cursor) : Option (Chomping × Cursor) :=
  if k.startsWith '+' then some (.keep, k.next)
  else if k.startsWith '-' then some (.strip, k.next)
  else none

/-- A digit of the first line, or zero where there is none. -/
def increment (since : Mark) (k : Cursor) : Step Nat :=
  match k.rest with
  | c :: _ =>
    if c == '0' then .error (k.problem "found an indentation indicator equal to 0" scanning since)
    else if c.isDigit then .ok (c.toNat - 48, k.next)
    else .ok (0, k)
  | [] => .ok (0, k)

def header (since : Mark) (k : Cursor) : Step Header :=
  match chomping? k with
  | some (c, k) => (increment since k).map fun (n, k) => (⟨c, n⟩, k)
  | none =>
    match increment since k with
    | .error e => .error e
    | .ok (0, k) => .ok (⟨.clip, 0⟩, k)
    | .ok (n, k) =>
      match chomping? k with
      | some (c, k) => .ok (⟨c, n⟩, k)
      | none => .ok (⟨.clip, n⟩, k)

/-- Whether a column lies in the indentation; with none known every column does. -/
def within (indent column : Nat) : Bool := indent == 0 || column < indent

def skipIndent (indent : Nat) (m : Mark) : List Char → Cursor
  | ' ' :: rest => if within indent m.column then skipIndent indent m.next rest else ⟨' ' :: rest, m⟩
  | cs => ⟨cs, m⟩

/-- Breaks of blank lines, and the deepest column that has been reached. -/
def breaks (since : Mark) (indent : Nat) : Nat → List Char → Nat → Cursor → Step (List Char × Nat)
  | 0, acc, deepest, k => .ok ((acc, deepest), k)
  | fuel + 1, acc, deepest, k =>
    let k := skipIndent indent k.mark k.rest
    let deepest := max deepest k.mark.column
    if within indent k.mark.column && k.startsWith '\t' then
      .error (k.problem "found a tab character where an indentation space is expected" scanning since)
    else
      match k.lineBreak? with
      | some (c, k) => breaks since indent fuel (acc ++ [c]) deepest k
      | none => .ok ((acc, deepest), k)

/-- What has been read of a scalar: the text in reverse, the break behind its last line, the breaks of
blank lines behind that, and whether the last line begins with a blank. -/
structure Lines where
  text : List Char
  last : Option Char
  blank : List Char
  indented : Bool

/-- The text with the breaks before a next line; a single break between plain lines becomes a space. -/
def Lines.join (l : Lines) (literal indented : Bool) : List Char :=
  if !literal && l.last == some '\n' && !l.indented && !indented then
    if l.blank.isEmpty then ' ' :: l.text else l.blank.reverse ++ l.text
  else l.blank.reverse ++ l.last.toList ++ l.text

def lines (literal : Bool) (since : Mark) (indent : Nat) : Nat → Lines → Cursor → Step Lines
  | 0, l, k => .ok (l, k)
  | fuel + 1, l, k =>
    if k.mark.column != indent || k.rest.isEmpty then .ok (l, k)
    else
      let indented := k.startsBlank
      let (line, k) := k.span fun c => !isBreak c
      let text := line.reverse ++ l.join literal indented
      let (last, k) := match k.lineBreak? with
        | some (c, k) => (some c, k)
        | none => (none, k)
      match breaks since indent k.reach [] 0 k with
      | .error e => .error e
      | .ok ((blank, _), k) => lines literal since indent fuel ⟨text, last, blank, indented⟩ k

def Lines.chomp (l : Lines) : Chomping → List Char
  | .strip => l.text
  | .clip => l.last.toList ++ l.text
  | .keep => l.blank.reverse ++ l.last.toList ++ l.text

/-- The text of the scalar whose sign stands at the cursor. `margin` is the least column that lies
inside the collection around it. -/
def read (literal : Bool) (margin : Nat) (k : Cursor) : Except Fault (String × Cursor) := do
  let since := k.mark
  let (h, k) ← header since k.next
  let k ← k.endLine scanning since
  let given := if h.increment == 0 then 0 else (margin - 1) + h.increment
  let ((blank, deepest), k) ← breaks since given k.reach [] 0 k
  let indent := if given == 0 then max 1 (max deepest margin) else given
  let (l, k) ← lines literal since indent k.reach ⟨[], none, blank, false⟩ k
  return (String.ofList (l.chomp h.chomping).reverse, k)

end ApiStencil.Yaml.Block
