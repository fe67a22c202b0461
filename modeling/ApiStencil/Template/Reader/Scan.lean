import ApiStencil.Decimal.Read
import ApiStencil.Text.Trim
/-!
The words of template tags. A reader takes what is left of the text and gives a result with the rest,
or nothing; where it fails the text is left as it was.
-/
set_option autoImplicit false

namespace ApiStencil.Template

abbrev Reader := StateT (List Char) Option

namespace Reader

def isSpace (c : Char) : Bool :=
  c == ' ' || c == '\t' || c == '\r' || c == '\n'

def blanks : Reader Unit :=
  modify (·.dropWhile isSpace)

def literal (s : String) : Reader Unit := fun cs =>
  (Text.dropText? s.toList cs).map fun rest => ((), rest)

/-- One blank, then any further ones. -/
def someBlanks : Reader Unit := fun cs =>
  match cs with
  | c :: rest => if isSpace c then some ((), rest.dropWhile isSpace) else none
  | [] => none

/-- A word behind any blanks. -/
def word (s : String) : Reader Unit := do
  blanks
  literal s

def option {α : Type} (p : Reader α) : Reader (Option α) :=
  (do return some (← p)) <|> pure none

def succeeds (p : Reader Unit) : Reader Bool :=
  (do p; return true) <|> pure false

def repeatUpTo {α : Type} (p : Reader α) : Nat → Reader (List α)
  | 0 => pure []
  | n + 1 => do
    match ← option p with
    | none => pure []
    | some a => return a :: (← repeatUpTo p n)

/-- As many as there are; each takes at least one character. -/
def many {α : Type} (p : Reader α) : Reader (List α) := do
  repeatUpTo p ((← get).length + 1)

/-- One or more with commas between them. -/
def commaSeparated {α : Type} (p : Reader α) : Reader (List α) := do
  let first ← p
  let rest ← many (do word ","; blanks; p)
  return first :: rest

def isNameStart (c : Char) : Bool := c.isAlpha || c == '_'

def isNamePart (c : Char) : Bool := c.isAlphanum || c == '_'

def takeWhile (p : Char → Bool) : Reader (List Char) := fun cs =>
  some (cs.takeWhile p, cs.dropWhile p)

def takeWhile1 (p : Char → Bool) : Reader (List Char) := do
  let cs ← takeWhile p
  guard (!cs.isEmpty)
  return cs

def ident : Reader String := do
  match (← get) with
  | c :: _ =>
    guard (isNameStart c)
    return String.ofList (← takeWhile isNamePart)
  | [] => failure

def between (quote : Char) : Reader String := do
  literal (String.singleton quote)
  let cs ← takeWhile (· != quote)
  literal (String.singleton quote)
  return String.ofList cs

/-- A string between quotes of one of three kinds; nothing in it is escaped. -/
def string : Reader String := between '"' <|> between '\'' <|> between '\x60'

def boolean : Reader Bool :=
  (do literal "true"; return true) <|> (do literal "false"; return false) <|>
    (do literal "True"; return true) <|> (do literal "False"; return false)

def digits : Reader (List Char) :=
  (do literal "0"; return ['0']) <|> takeWhile1 Char.isDigit

def int : Reader Int := do
  let negative ← succeeds (literal "-")
  let n : Int := Decimal.naturalOf (← digits)
  return if negative then -n else n

def float : Reader Float := do
  let negative ← succeeds (literal "-")
  let whole ← digits
  literal "."
  let fraction ← takeWhile1 Char.isDigit
  let x := Decimal.nearest whole fraction 0
  return if negative then -x else x

/-- A name with further names behind dots. -/
def dotted : Reader String := do
  let head ← ident
  let rest ← many (do literal "."; return "." ++ String.ofList (← takeWhile1 isNamePart))
  return head ++ String.join rest

mutual

/-- A variable: a dotted name with indices and further names behind it, spelt as it stands. -/
def variable_ : Nat → Reader String
  | 0 => failure
  | fuel + 1 => do
    let head ← dotted
    let rest ← many (part fuel)
    return head ++ String.join rest

def part : Nat → Reader String
  | 0 => failure
  | fuel + 1 =>
    (do literal "."; return "." ++ String.ofList (← takeWhile1 isNamePart)) <|> do
      let before ← get
      literal "["
      index fuel
      literal "]"
      let after ← get
      return String.ofList (before.take (before.length - after.length))

def index : Nat → Reader Unit
  | 0 => failure
  | fuel + 1 => (do let _ ← int) <|> (do let _ ← string) <|> (do let _ ← variable_ fuel)

end

def variableName : Reader String := do
  variable_ (4 * (← get).length + 4)

end Reader
end ApiStencil.Template
