import ApiStencil.Decimal.Read
import ApiStencil.Script.Units
/-!
Tokens of script code, read at a position of the source. Whether a slash divides or starts a pattern,
and where a template goes on, is for the reader to say; it asks for these by name.
-/
set_option autoImplicit false

namespace ApiStencil.Script

inductive Token where
  | done
  /-- A name or keyword, and whether it was written with an escape. -/
  | word (name : String) (escaped : Bool)
  | hidden (name : String)
  | sign (s : String)
  | number (x : Float)
  | bigint (n : Int)
  | text (u : Units) (plain : Bool)
  /-- A piece of a template, as read and as written, and whether it is the last one. -/
  | piece (read : Option Units) (written : Units) (last : Bool)
  deriving Inhabited

namespace Token

abbrev Source := Array Char

/-- What is read and where it ends; nothing for what is no token. -/
abbrev Found (α : Type) := Option (α × Nat)

def at_ (src : Source) (i : Nat) : Char := src.getD i '\x00'

def isLineEnd (c : Char) : Bool := Units.isLineEnd c.toNat

def isBlank (c : Char) : Bool := Units.isBlank c.toNat

def standsAt (src : Source) (s : String) (i : Nat) : Bool :=
  (s.toList.zipIdx).all fun (c, k) => src[i + k]? == some c

/-- Where a comment over lines ends, and whether it holds a line end. -/
def blockComment (src : Source) : Nat → Nat → Bool → Option (Nat × Bool)
  | 0, _, _ => none
  | fuel + 1, i, newline =>
    if src.size ≤ i then none
    else if standsAt src "*/" i then some (i + 2, newline)
    else blockComment src fuel (i + 1) (newline || isLineEnd (at_ src i))

def lineRest (src : Source) : Nat → Nat → Nat
  | 0, i => i
  | fuel + 1, i => if i < src.size && !isLineEnd (at_ src i) then lineRest src fuel (i + 1) else i

/-- Skips blanks and comments; says whether a line ended. An arrow of markup is a comment where a line
begins, and the opening of a markup comment is one everywhere. -/
def skip (src : Source) : Nat → Nat → Bool → Option (Nat × Bool)
  | 0, i, newline => some (i, newline)
  | fuel + 1, i, newline =>
    if src.size ≤ i then some (i, newline)
    else
      let c := at_ src i
      if isLineEnd c then skip src fuel (i + 1) true
      else if isBlank c then skip src fuel (i + 1) newline
      else if standsAt src "//" i || standsAt src "<!--" i || (newline && standsAt src "-->" i) then
        skip src fuel (lineRest src src.size i) newline
      else if standsAt src "/*" i then
        match blockComment src src.size (i + 2) newline with
        | some (j, newline) => skip src fuel j newline
        | none => none
      else some (i, newline)

def isStart (c : Char) : Bool := c == '$' || c == '_' || Text.isIdentifierStart c

def isPart (c : Char) : Bool :=
  c == '$' || c == '\u200c' || c == '\u200d' || Text.isIdentifierPart c

/-- Exactly `n` hexadecimal digits. -/
def hexDigits (src : Source) (n i : Nat) : Found Nat :=
  if i + n ≤ src.size then (Decimal.ofBase? 16 (src.extract i (i + n)).toList).map (·, i + n) else none

/-- The code point behind `\u`. -/
def unicodeEscape (src : Source) (i : Nat) : Found Nat :=
  if at_ src i == '\x7b' then
    let ds := (src.extract (i + 1) src.size).toList.takeWhile (· != '\x7d')
    let stop := i + 1 + ds.length
    if src.size ≤ stop then none
    else (Decimal.ofBase? 16 ds).bind fun n => if n ≤ 0x10ffff then some (n, stop + 1) else none
  else hexDigits src 4 i

/-- A name, with its escapes read. -/
def nameFrom (src : Source) : Nat → Nat → List Char → Bool → Found (String × Bool)
  | 0, _, _, _ => none
  | fuel + 1, i, acc, escaped =>
    let ok := fun c => if acc.isEmpty then isStart c else isPart c
    if i < src.size && at_ src i == '\\' then
      if at_ src (i + 1) != 'u' then none
      else
        match unicodeEscape src (i + 2) with
        | some (n, j) =>
          if n.isValidChar && ok (Char.ofNat n) then nameFrom src fuel j (Char.ofNat n :: acc) true else none
        | none => none
    else if i < src.size && ok (at_ src i) then nameFrom src fuel (i + 1) (at_ src i :: acc) escaped
    else if acc.isEmpty then none
    else some ((String.ofList acc.reverse, escaped), i)

/-- Digits of a base with single separators between them. -/
def digits (src : Source) (base : Nat) : Nat → Nat → List Char → Option (List Char × Nat)
  | 0, _, _ => none
  | fuel + 1, i, acc =>
    let c := at_ src i
    if i < src.size && (Decimal.digitOfBase? base c).isSome then digits src base fuel (i + 1) (c :: acc)
    else if i < src.size && c == '_' then
      if !acc.isEmpty && (Decimal.digitOfBase? base (at_ src (i + 1))).isSome then
        digits src base fuel (i + 1) acc
      else none
    else some (acc.reverse, i)

/-- What may not stand right behind a number. -/
def endsNumber (src : Source) (i : Nat) : Bool :=
  src.size ≤ i || !(isStart (at_ src i) || (at_ src i).isDigit || at_ src i == '\\')

def closeNumber (src : Source) (t : Token) (i : Nat) : Found Token :=
  if endsNumber src i then some (t, i) else none

def radixNumber (src : Source) (base i : Nat) : Found Token :=
  match digits src base (src.size + 1) i [] with
  | none => none
  | some (ds, j) =>
    match Decimal.ofBase? base ds with
    | none => none
    | some n =>
      if at_ src j == 'n' && j < src.size then closeNumber src (.bigint n) (j + 1)
      else closeNumber src (.number (Float.ofScientific n false 0)) j

def exponentPart (src : Source) (i : Nat) : Option (Int × Nat) :=
  if i < src.size && (at_ src i == 'e' || at_ src i == 'E') then
    let (factor, j) :=
      if at_ src (i + 1) == '-' then ((-1 : Int), i + 2)
      else if at_ src (i + 1) == '+' then (1, i + 2) else (1, i + 1)
    match digits src 10 (src.size + 1) j [] with
    | some (ds, k) => if ds.isEmpty then none else some (factor * Decimal.naturalOf ds, k)
    | none => none
  else some (0, i)

def decimalNumber (src : Source) (i : Nat) : Found Token :=
  match digits src 10 (src.size + 1) i [] with
  | none => none
  | some (whole, j) =>
    -- a zero in front of other digits is no decimal
    if whole.length > 1 && whole.head? == some '0' then none
    else if j < src.size && at_ src j == 'n' && !whole.isEmpty then
      closeNumber src (.bigint (Decimal.naturalOf whole)) (j + 1)
    else
      let fraction := if j < src.size && at_ src j == '.' then digits src 10 (src.size + 1) (j + 1) [] else some ([], j)
      match fraction with
      | none => none
      | some (fraction, k) =>
        match exponentPart src k with
        | none => none
        | some (e, k) => closeNumber src (.number (Decimal.nearest whole fraction e)) k

def readNumber (src : Source) (i : Nat) : Found Token :=
  if at_ src i == '0' then
    match (at_ src (i + 1)).toLower with
    | 'x' => radixNumber src 16 (i + 2)
    | 'o' => radixNumber src 8 (i + 2)
    | 'b' => radixNumber src 2 (i + 2)
    | _ => decimalNumber src i
  else decimalNumber src i

/-- What stands behind a backslash: the units it gives and where it ends. -/
def escape (src : Source) (i : Nat) : Found Units :=
  if src.size ≤ i then none
  else
    let c := at_ src i
    let one := fun (n : Nat) => some ((#[n.toUInt16] : Units), i + 1)
    match c with
    | 'n' => one 10
    | 't' => one 9
    | 'r' => one 13
    | 'b' => one 8
    | 'f' => one 12
    | 'v' => one 11
    | 'x' => (hexDigits src 2 (i + 1)).map fun (n, j) => (Units.ofPoints [n], j)
    | 'u' => (unicodeEscape src (i + 1)).map fun (n, j) => (Units.ofPoints [n], j)
    | '\r' => some (#[], if at_ src (i + 1) == '\n' then i + 2 else i + 1)
    | '0' => if (at_ src (i + 1)).isDigit && i + 1 < src.size then none else one 0
    | _ =>
      if isLineEnd c then some (#[], i + 1)
      else if c.isDigit then none
      else some (Units.ofPoints [c.toNat], i + 1)

def textFrom (src : Source) (quote : Char) : Nat → Nat → Units → Bool → Found Token
  | 0, _, _, _ => none
  | fuel + 1, i, acc, plain =>
    if src.size ≤ i then none
    else
      let c := at_ src i
      if c == quote then some (.text acc plain, i + 1)
      else if c == '\n' || c == '\r' then none
      else if c == '\\' then
        match escape src (i + 1) with
        | some (u, j) => textFrom src quote fuel j (acc ++ u) false
        | none => none
      else textFrom src quote fuel (i + 1) (Units.pushPoint acc c.toNat) plain

/-- A piece of a template, up to the next hole or the end. -/
def pieceFrom (src : Source) : Nat → Nat → Option Units → Units → Found Token
  | 0, _, _, _ => none
  | fuel + 1, i, read, written =>
    if src.size ≤ i then none
    else
      let c := at_ src i
      let push := fun (u : Units) => read.map (· ++ u)
      if c == '\x60' then some (.piece read written true, i + 1)
      else if c == '$' && at_ src (i + 1) == '\x7b' then some (.piece read written false, i + 2)
      else if c == '\\' then
        let stop := match escape src (i + 1) with
          | some (_, j) => j
          | none => i + 2
        let raw := (src.extract i stop).foldl (fun u c => Units.pushPoint u c.toNat) #[]
        let raw := if raw.contains 13 then (raw.filter (· != 10)).map fun x => if x == 13 then 10 else x else raw
        match escape src (i + 1) with
        | some (u, j) => pieceFrom src fuel j (push u) (written ++ raw)
        | none => if i + 1 < src.size then pieceFrom src fuel stop none (written ++ raw) else none
      else if c == '\r' then
        let j := if at_ src (i + 1) == '\n' then i + 2 else i + 1
        pieceFrom src fuel j (push #[10]) (written.push 10)
      else
        let u := Units.ofPoints [c.toNat]
        pieceFrom src fuel (i + 1) (push u) (written ++ u)

def readPiece (src : Source) (i : Nat) : Found Token := pieceFrom src (src.size + 1) i (some #[]) #[]

/-- The end of a pattern's body; a slash inside a class does not end it. -/
def patternEnd (src : Source) : Nat → Nat → Bool → Option Nat
  | 0, _, _ => none
  | fuel + 1, i, inClass =>
    if src.size ≤ i then none
    else
      let c := at_ src i
      if isLineEnd c then none
      else if c == '\\' then
        if src.size ≤ i + 1 || isLineEnd (at_ src (i + 1)) then none else patternEnd src fuel (i + 2) inClass
      else if c == '[' then patternEnd src fuel (i + 1) true
      else if c == ']' then patternEnd src fuel (i + 1) false
      else if c == '/' && !inClass then some i
      else patternEnd src fuel (i + 1) inClass

def flagsEnd (src : Source) : Nat → Nat → Nat
  | 0, i => i
  | fuel + 1, i => if i < src.size && isPart (at_ src i) then flagsEnd src fuel (i + 1) else i

/-- The body and the flags of the pattern whose first slash is at `i`. -/
def readPattern (src : Source) (i : Nat) : Found (List Char × List Char) :=
  match patternEnd src (src.size + 1) (i + 1) false with
  | none => none
  | some j =>
    let k := flagsEnd src (src.size + 1) (j + 1)
    if j == i + 1 then none
    else some (((src.extract (i + 1) j).toList, (src.extract (j + 1) k).toList), k)

def signs : List String :=
  [">>>=", "...", "===", "!==", "**=", "<<=", ">>=", ">>>", "&&=", "||=", "??=", "=>", "==", "!=", "<=", ">=",
    "&&", "||", "??", "?.", "++", "--", "+=", "-=", "*=", "/=", "%=", "&=", "|=", "^=", "<<", ">>", "**",
    "\x7b", "\x7d", "(", ")", "[", "]", ";", ",", "<", ">", "+", "-", "*", "/", "%", "&", "|", "^", "!", "~",
    "?", ":", "=", "."]

def readSign (src : Source) (i : Nat) : Found Token :=
  match signs.find? fun s => standsAt src s i && !(s == "?." && (at_ src (i + 2)).isDigit) with
  | some s => some (.sign s, i + s.length)
  | none => none

/-- The token at `i`, where no blank stands. -/
def read (src : Source) (i : Nat) : Found Token :=
  if src.size ≤ i then some (.done, i)
  else
    let c := at_ src i
    if isStart c || c == '\\' then
      (nameFrom src (src.size + 1) i [] false).map fun ((name, escaped), j) => (.word name escaped, j)
    else if c.isDigit || (c == '.' && (at_ src (i + 1)).isDigit) then readNumber src i
    else if c == '"' || c == '\x27' then textFrom src c (src.size + 1) (i + 1) #[] true
    else if c == '\x60' then readPiece src (i + 1)
    else if c == '#' then
      (nameFrom src (src.size + 1) (i + 1) [] false).map fun ((name, _), j) => (.hidden name, j)
    else readSign src i

end Token
end ApiStencil.Script
