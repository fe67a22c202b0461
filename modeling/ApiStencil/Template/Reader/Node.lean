import ApiStencil.Template.Reader.Expr
/-!
Reading the nodes of a template. Which tags may stand in a body depends on what the body belongs to.
-/
set_option autoImplicit false

namespace ApiStencil.Template.Reader

/-- What a body belongs to. -/
inductive Scope where
  | top
  /-- A condition that belongs to no other body. -/
  | branch
  | block
  | definition
  | loop
  | filter
  deriving DecidableEq

def tagStart : Reader Bool :=
  (do literal "\x7b%-"; return true) <|> (do literal "\x7b%"; return false)

def tagEnd : Reader Bool :=
  (do literal "-%\x7d"; return true) <|> (do literal "%\x7d"; return false)

/-- A tag around its inner part. -/
def tag {α : Type} (inner : Reader α) : Reader (Trim × α) := do
  let left ← tagStart
  blanks
  let a ← inner
  blanks
  let right ← tagEnd
  return (⟨left, right⟩, a)

/-- A tag of a word alone. -/
def bareTag (name : String) : Reader Trim := do
  return (← tag (literal name)).1

/-- A tag of a word, blanks and more. -/
def wordTag {α : Type} (name : String) (inner : Reader α) : Reader (Trim × α) :=
  tag do
    literal name
    someBlanks
    inner

/-- The closing tag of a body, which may repeat the name. -/
def closingTag (name : String) : Reader Trim := do
  let (trim, _) ← tag do
    literal name
    option do
      blanks
      ident
  return trim

def printed {α : Type} (inner : Reader α) : Reader (Trim × α) := do
  let left ← (do literal "\x7b\x7b-"; return true) <|> (do literal "\x7b\x7b"; return false)
  blanks
  let a ← inner
  blanks
  let right ← (do literal "-\x7d\x7d"; return true) <|> (do literal "\x7d\x7d"; return false)
  return (⟨left, right⟩, a)

/-- What stands behind the end of a comment, and whether the end cuts blanks off. -/
def commentEnd : List Char → Option (Bool × List Char)
  | '-' :: '#' :: '\x7d' :: rest => some (true, rest)
  | '#' :: '\x7d' :: rest => some (false, rest)
  | _ :: rest => commentEnd rest
  | [] => none

def comment : Reader Node := do
  let left ← (do literal "\x7b#-"; return true) <|> (do literal "\x7b#"; return false)
  let right ← (commentEnd : Reader Bool)
  return .comment ⟨left, right⟩

def textChars : List Char → List Char × List Char
  | [] => ([], [])
  | '\x7b' :: c :: rest =>
    if c == '\x7b' || c == '%' || c == '#' then ([], '\x7b' :: c :: rest)
    else
      let (cs, rest) := textChars (c :: rest)
      ('\x7b' :: cs, rest)
  | c :: rest =>
    let (cs, rest) := textChars rest
    (c :: cs, rest)

def text : Reader Node := do
  let (cs, rest) := textChars (← get)
  guard (!cs.isEmpty)
  set rest
  return .text (String.ofList cs)

/-- The text up to the closing tag of a raw section. -/
def rawText : Nat → Reader (List Char × Trim)
  | 0 => failure
  | fuel + 1 =>
    (do return ([], (← bareTag "endraw"))) <|> do
      match (← get) with
      | [] => failure
      | c :: rest =>
        set rest
        let (cs, trim) ← rawText fuel
        return (c :: cs, trim)

def raw : Reader Node := do
  let start ← bareTag "raw"
  let (cs, stop) ← rawText ((← get).length + 1)
  return .raw start (String.ofList cs) stop

def stringList : Reader (List String) := do
  literal "["
  blanks
  let names ← option (commaSeparated string)
  if names.isSome then
    let _ ← option (word ",")
  word "]"
  return names.getD []

def embed : Reader Node := do
  let (trim, names, optional) ← wordTag "include" do
    let names ← (do return [← string]) <|> stringList
    let optional ← succeeds do
      blanks
      literal "ignore"
      someBlanks
      literal "missing"
    return (names, optional)
  return .embed trim names optional

def load : Reader Node := do
  let (trim, file, space) ← wordTag "import" do
    let file ← string
    someBlanks
    literal "as"
    someBlanks
    return (file, (← ident))
  return .load trim file space

def extend : Reader Node := do
  let (trim, name) ← wordTag "extends" string
  return .extend trim name

def assignment (name : String) (global : Bool) : Reader Node := do
  let (trim, key, value) ← wordTag name do
    let key ← ident
    word "="
    blanks
    return (key, (← expression))
  return .set trim key value global

def print : Reader Node := do
  let (trim, e) ← printed expression
  return .print trim e

def parent : Reader Node := do
  let _ ← printed (literal "super()")
  return .parent

def parameter : Reader (String × Option Operand) := do
  let name ← ident
  let value ← option do
    word "="
    blanks
    defaultValue
  return (name, value)

def signature : Reader MacroDef := do
  let name ← ident
  word "("
  blanks
  let params ← option (commaSeparated parameter)
  word ")"
  return ⟨name, params.getD []⟩

/-- The variables of a loop and what it runs over. -/
def loopHead : Reader (Option String × String × Expr) := do
  let first ← ident
  let second ← option do
    word ","
    blanks
    ident
  someBlanks
  literal "in"
  someBlanks
  let container ← containerExpr
  match second with
  | some item => return (some first, item, container)
  | none => return (none, first, container)

def only {α : Type} (allowed : Bool) (p : Reader α) : Reader α := do
  guard allowed
  p

mutual

def node : Nat → Scope → Reader Node
  | 0, _ => failure
  | fuel + 1, scope =>
    text <|> comment <|> only (scope == .block || scope == .filter) parent <|> print <|> embed <|>
      assignment "set" false <|> assignment "set_global" true <|> raw <|>
      only (scope == .top) load <|> only (scope == .top) (definition fuel) <|>
      only (scope != .definition && scope != .loop) (block fuel) <|>
      only (scope == .loop) (do return .leave (← bareTag "break")) <|>
      only (scope == .loop) (do return .next (← bareTag "continue")) <|>
      cond fuel scope <|> loop fuel <|> filter fuel

def definition : Nat → Reader Node
  | 0 => failure
  | fuel + 1 => do
    let (start, m) ← wordTag "macro" signature
    let body ← many (node fuel .definition)
    return .definition start m body (← closingTag "endmacro")

def block : Nat → Reader Node
  | 0 => failure
  | fuel + 1 => do
    let (start, name) ← wordTag "block" ident
    let body ← many (node fuel .block)
    return .block start name body (← closingTag "endblock")

def filter : Nat → Reader Node
  | 0 => failure
  | fuel + 1 => do
    let (start, f) ← wordTag "filter" call
    let body ← many (node fuel .filter)
    return .filter start f body (← bareTag "endfilter")

def loop : Nat → Reader Node
  | 0 => failure
  | fuel + 1 => do
    let (start, key, item, container) ← wordTag "for" loopHead
    let body ← many (node fuel .loop)
    let otherwise ← option do
      let _ ← bareTag "else"
      many (node fuel .loop)
    return .loop start key item container body (otherwise.getD []) (← bareTag "endfor")

def cond : Nat → Scope → Reader Node
  | 0, _ => failure
  | fuel + 1, scope => do
    let scope := if scope == .top then .branch else scope
    let first ← branch fuel "if" scope
    let more ← many (branch fuel "elif" scope)
    let otherwise ← option do
      let trim ← bareTag "else"
      return (trim, (← many (node fuel scope)))
    return .cond (first :: more) (otherwise.map (·.1)) ((otherwise.map (·.2)).getD []) (← bareTag "endif")

def branch : Nat → String → Scope → Reader Branch
  | 0, _, _ => failure
  | fuel + 1, name, scope => do
    let (trim, e) ← wordTag name logicExpression
    return .mk trim e (← many (node fuel scope))

end

/-- The tag that names the parent, behind blanks and comments only. -/
def leadingExtend : Reader Node := do
  let _ ← many do
    blanks
    comment
  blanks
  extend

/-- All nodes of a template, with what is left where no node can be read. -/
def template (cs : List Char) : List Node × List Char :=
  let fuel := 4 * cs.length + 8
  let (head, cs) := match leadingExtend.run cs with
    | some (n, rest) => ([n], rest)
    | none => ([], cs)
  match (many (node fuel .top)).run cs with
  | some (ns, rest) => (head ++ ns, rest)
  | none => (head, cs)

end ApiStencil.Template.Reader
