import ApiStencil.Script.Syntax
import ApiStencil.Script.Token
/-!
What a reader of scripts knows at a place: the token there, what the code around it allows, and what
has been declared so far. A reader gives nothing for what is no script.
-/
set_option autoImplicit false

namespace ApiStencil.Script

namespace Reader

/-- What the code around a place allows. -/
structure Site where
  returns : Bool
  awaits : Bool
  yields : Bool
  parentCall : Bool
  parentMember : Bool
  newTarget : Bool
  leaves : Bool
  continues : Bool
  /-- Labels around, and whether they are those of loops. -/
  labels : List (Units × Bool)

def Site.script : Site := ⟨false, false, false, false, false, false, false, false, []⟩

structure State where
  src : Token.Source
  token : Token
  start : Nat
  stop : Nat
  /-- A line ended before the token. -/
  newline : Bool
  /-- Where the token before ended. -/
  last : Nat
  site : Site
  /-- Names of `var` declarations of the body. -/
  vars : List Units
  /-- Names bound by the patterns read last. -/
  bound : List Units
  /-- How many functions have been met. -/
  functions : Nat
  /-- Defaults in objects that have not turned out to be patterns. -/
  covers : Nat
  /-- Hidden names used and not yet declared. -/
  wanted : List Units
  /-- How many tagged templates have been met. -/
  sites : Nat

end Reader

abbrev Reader := StateT Reader.State Option

namespace Reader

def advance : Reader Unit := do
  let s ← get
  match Token.skip s.src (s.src.size + 1) s.stop (s.stop == 0) with
  | none => failure
  | some (i, newline) =>
    match Token.read s.src i with
    | none => failure
    | some (t, j) => set { s with token := t, start := i, stop := j, newline := newline, last := s.stop }

/-- Goes on behind `stop`, which ends a piece that was read from the source. -/
def resume (stop : Nat) : Reader Unit := do
  modify fun s => { s with stop := stop }
  advance

/-- What `r` would read next, with nothing read. -/
def ahead {α : Type} (r : Reader α) : Reader (Option α) := fun s =>
  match r.run s with
  | some (a, _) => some (some a, s)
  | none => some (none, s)

def token : Reader Token := do
  return (← get).token

def isSign (t : String) : Reader Bool := do
  match ← token with
  | .sign s => return s == t
  | _ => return false

def isWord (name : String) : Reader Bool := do
  match ← token with
  | .word w escaped => return w == name && !escaped
  | _ => return false

def eatSign (t : String) : Reader Bool := do
  if ← isSign t then
    advance
    return true
  else return false

def eatWord (name : String) : Reader Bool := do
  if ← isWord name then
    advance
    return true
  else return false

def sign (t : String) : Reader Unit := do
  guard (← isSign t)
  advance

def word (name : String) : Reader Unit := do
  guard (← isWord name)
  advance

def newline : Reader Bool := do
  return (← get).newline

/-- The end of a statement, which may be left out before a brace or at a line's end. -/
def semicolon : Reader Unit := do
  if ← eatSign ";" then return ()
  match ← token with
  | .done => return ()
  | .sign "\x7d" => return ()
  | _ => guard (← newline)

def reserved : List String :=
  ["break", "case", "catch", "class", "const", "continue", "debugger", "default", "delete", "do", "else", "enum",
    "export", "extends", "false", "finally", "for", "function", "if", "import", "in", "instanceof", "new", "null",
    "return", "super", "switch", "this", "throw", "true", "try", "typeof", "var", "void", "while", "with",
    "implements", "interface", "let", "package", "private", "protected", "public", "static", "yield"]

def isName (s : String) (site : Site) : Bool :=
  !reserved.contains s && !(s == "await" && site.awaits)

/-- A name that stands for a variable. -/
def variable_ : Reader Units := do
  match ← token with
  | .word w _ =>
    guard (isName w (← get).site)
    advance
    return txt w
  | _ => failure

/-- A name that is bound here. -/
def binding : Reader Units := do
  let n ← variable_
  guard (n != txt "eval" && n != txt "arguments")
  modify fun s => { s with bound := n :: s.bound }
  return n

/-- Any word, also a reserved one. -/
def anyWord : Reader Units := do
  match ← token with
  | .word w _ =>
    advance
    return txt w
  | _ => failure

/-- The names that the patterns in `r` bind. -/
def binds {α : Type} (r : Reader α) : Reader (α × List Units) := do
  let before := (← get).bound
  modify fun s => { s with bound := [] }
  let a ← r
  let names := (← get).bound
  modify fun s => { s with bound := before }
  return (a, names.reverse)

def within {α : Type} (change : Site → Site) (r : Reader α) : Reader α := do
  let before := (← get).site
  modify fun s => { s with site := change before }
  let a ← r
  modify fun s => { s with site := before }
  return a

/-- The source from `start` to the end of the token before this one. -/
def textSince (start : Nat) : Reader Units := do
  let s ← get
  return (s.src.extract start s.last).foldl (fun u c => Units.pushPoint u c.toNat) #[]

def here : Reader Nat := do
  return (← get).start

def meetFunction : Reader Unit :=
  modify fun s => { s with functions := s.functions + 1 }

/-- Things between commas up to a closing sign, which is read too. A comma may stand at the end. -/
def listUpTo {α : Type} (close : String) (item : Reader α) : Reader (List α) := do
  let fuel := (← get).src.size + 1
  go fuel
where
  go : Nat → Reader (List α)
    | 0 => failure
    | n + 1 => do
      if ← eatSign close then return []
      let a ← item
      if ← eatSign "," then return a :: (← go n)
      sign close
      return [a]

/-- Things up to a closing brace, which is read too. -/
def allUpTo {α : Type} (ends : Reader Bool) (item : Reader α) : Reader (List α) := do
  let fuel := (← get).src.size + 1
  go fuel
where
  go : Nat → Reader (List α)
    | 0 => failure
    | n + 1 => do
      if ← ends then return []
      let a ← item
      return a :: (← go n)

def repeats : List Units → Bool
  | [] => false
  | n :: rest => rest.contains n || repeats rest

/-- The readers that call each other. -/
structure Grammar where
  /-- An expression without commas at its top; `in` may be barred. -/
  assignment : Bool → Reader Expr
  unary : Reader Expr
  pattern : Reader Pattern
  stmt : Reader Stmt

end Reader
end ApiStencil.Script
