import ApiStencil.Decimal.Read
/-!
Reading TOML texts: where one stops making sense and why, the space between its parts, and texts between quotes.
-/
set_option autoImplicit false

namespace ApiStencil.Toml

/-- Line and column count from one, the column in characters. -/
structure Fault where
  text : String
  line : Nat
  column : Nat

def Fault.message (f : Fault) : String :=
  s!"TOML parse error at line {f.line}, column {f.column}: {f.text}"

/-- A fault placed by what is left of the text. -/
structure Stop where
  text : String
  rest : List Char

/-- The fault in the text that `whole` is. -/
def Stop.fault (whole : List Char) (s : Stop) : Fault :=
  let before := whole.take (whole.length - s.rest.length)
  { text := s.text
    line := before.count '\n' + 1
    column := (before.reverse.takeWhile (· != '\n')).length + 1 }

/-!
The space between the parts of a TOML text: blanks, comments and line breaks. A reader takes what is left of
the text, and gives a result with the rest or says why it stops.
-/

abbrev Reader := StateT (List Char) (Except Stop)

def isBlank (c : Char) : Bool := c == ' ' || c == '\t'

/-- A character that may stand as itself in a comment or a text of one line. -/
def isInLine (c : Char) : Bool := c == '\t' || (32 ≤ c.toNat && c.toNat != 127)

/-- The rest behind a line break. -/
def lineBreak? : List Char → Option (List Char)
  | '\n' :: rest => some rest
  | '\r' :: '\n' :: rest => some rest
  | _ => none

/-- The rest behind blanks, line breaks and comments. -/
def skipSpace (inComment : Bool) : List Char → List Char
  | [] => []
  | c :: rest =>
    if inComment && isInLine c then skipSpace true rest
    else if isBlank c || c == '\n' then skipSpace false rest
    else if c == '#' then skipSpace true rest
    else if c == '\r' && rest.head? == some '\n' then skipSpace false rest
    else c :: rest

/-- The rest behind blanks and line breaks. -/
def skipBreaks : List Char → List Char
  | [] => []
  | c :: rest =>
    if isBlank c || c == '\n' then skipBreaks rest
    else if c == '\r' && rest.head? == some '\n' then skipBreaks rest
    else c :: rest

namespace Reader

def stop {α : Type} (text : String) : Reader α := fun cs => .error ⟨text, cs⟩

def peek : Reader (Option Char) := do return (← get).head?

def blanks : Reader Unit := modify (·.dropWhile isBlank)

def space : Reader Unit := modify (skipSpace false)

def char (c : Char) : Reader Unit := fun cs =>
  match cs with
  | d :: rest => if d == c then .ok ((), rest) else .error ⟨s!"expected `{c}`", cs⟩
  | [] => .error ⟨s!"expected `{c}`", cs⟩

/-- What may follow on a line, with its end. -/
def lineEnd : Reader Unit := do
  blanks
  if (← peek) == some '#' then modify (·.dropWhile isInLine)
  match lineBreak? (← get), ← get with
  | some rest, _ => set rest
  | none, [] => return ()
  | none, _ => stop "expected newline, `#`"

end Reader
/-!
Texts between quotes. Between double quotes a backslash escapes what follows it; between single ones
every character stands for itself. Three quotes enclose a text of several lines.
-/

structure Quote where
  mark : Char
  multiline : Bool

def Quote.escapes (q : Quote) : Bool := q.mark == '"'

/-- The character of a number of `n` hexadecimal digits. -/
def hexCharacter (n : Nat) (cs : List Char) : Except Stop (Char × List Char) :=
  let digits := cs.take n
  match if digits.length == n then Decimal.ofBase? 16 digits else none with
  | none => .error ⟨s!"invalid unicode {n}-digit hex code", cs⟩
  | some v => if v.isValidChar then .ok (Char.ofNat v, cs.drop n) else .error ⟨"value is out of range", cs⟩

/-- What an escape stands for, behind its backslash. -/
def escaped (cs : List Char) : Except Stop (Char × List Char) :=
  match cs with
  | 'b' :: rest => .ok ('\x08', rest)
  | 't' :: rest => .ok ('\t', rest)
  | 'n' :: rest => .ok ('\n', rest)
  | 'f' :: rest => .ok ('\x0c', rest)
  | 'r' :: rest => .ok ('\r', rest)
  | '"' :: rest => .ok ('"', rest)
  | '\\' :: rest => .ok ('\\', rest)
  | 'u' :: rest => hexCharacter 4 rest
  | 'U' :: rest => hexCharacter 8 rest
  | _ => .error ⟨"invalid escape sequence", cs⟩

/-- The rest behind a line break that a backslash hides, with all space behind it. -/
def continued? (cs : List Char) : Option (List Char) :=
  (lineBreak? (cs.dropWhile isBlank)).map skipBreaks

/-- A text behind its opening quotes. A run of quotes ends a text of several lines if three are in it;
up to two before them belong to the text. -/
def textBody (q : Quote) : Nat → List Char → List Char → Except Stop (List Char × List Char)
  | 0, _, cs => .error ⟨"invalid string", cs⟩
  | fuel + 1, acc, cs =>
    match cs with
    | [] => .error ⟨"invalid string", cs⟩
    | c :: rest =>
      if c == q.mark then
        if q.multiline then
          let run := (cs.takeWhile (· == q.mark)).length
          if run < 3 then textBody q fuel (List.replicate run c ++ acc) (cs.drop run)
          else
            let inner := min (run - 3) 2
            .ok ((List.replicate inner c ++ acc).reverse, cs.drop (inner + 3))
        else .ok (acc.reverse, rest)
      else if c == '\\' && q.escapes then
        match if q.multiline then continued? rest else none with
        | some rest => textBody q fuel acc rest
        | none =>
          match escaped rest with
          | .error e => .error e
          | .ok (d, rest) => textBody q fuel (d :: acc) rest
      else if isInLine c then textBody q fuel (c :: acc) rest
      else
        match if q.multiline then lineBreak? cs else none with
        | some rest => textBody q fuel ('\n' :: acc) rest
        | none => .error ⟨"invalid string", cs⟩

/-- The rest behind a line break that opens a text of several lines. -/
def skipFirstBreak (cs : List Char) : List Char := (lineBreak? cs).getD cs

namespace Reader

def textIn (q : Quote) (cs : List Char) : Except Stop (String × List Char) :=
  (textBody q (cs.length + 1) [] cs).map fun (found, rest) => (String.ofList found, rest)

/-- A text on one line. -/
def lineText : Reader String := fun cs =>
  match cs with
  | '"' :: rest => textIn ⟨'"', false⟩ rest
  | '\'' :: rest => textIn ⟨'\'', false⟩ rest
  | _ => .error ⟨"invalid string", cs⟩

def text : Reader String := fun cs =>
  match cs with
  | '"' :: '"' :: '"' :: rest => textIn ⟨'"', true⟩ (skipFirstBreak rest)
  | '\'' :: '\'' :: '\'' :: rest => textIn ⟨'\'', true⟩ (skipFirstBreak rest)
  | _ => lineText cs

end Reader
end ApiStencil.Toml
