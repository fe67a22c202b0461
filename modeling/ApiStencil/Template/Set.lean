import ApiStencil.Json.Basic
import ApiStencil.Template.Blanks
import ApiStencil.Template.Reader.Node
import ApiStencil.Text.Quoted
/-!
Templates by name. A set is complete when every parent and every file that macros are loaded from is
in it, and no template is its own ancestor.
-/
set_option autoImplicit false

namespace ApiStencil

/-- A template with what can be found in it by name. -/
structure Template where
  name : String
  nodes : List Template.Node
  parent? : Option String
  /-- Blocks, also those inside blocks. -/
  blocks : List (String × List Template.Node)
  macros : List (String × Template.MacroDef × List Template.Node)
  /-- Files that macros are loaded from, with the names they are used by. -/
  imports : List (String × String)

namespace Template

inductive ParseFault where
  | malformed (line column : Nat)
  | integerOutOfBounds (n : Int)
  | repeatedBlock (name : String)
  | repeatedMacro (name : String)

def ParseFault.message : ParseFault → String
  | .malformed line column => s!" --> {line}:{column}"
  | .integerOutOfBounds n => s!"Integer out of bounds: `{n}`"
  | .repeatedBlock name => s!"Block `{name}` is duplicated"
  | .repeatedMacro name => s!"Macro `{name}` is duplicated"

def fits (n : Int) : Bool := Number.minInt ≤ n && n ≤ Number.maxInt

mutual

/-- The first integer that is out of bounds. -/
def Expr.large? : Expr → Option Int
  | .mk v _ filters => v.large? <|> largeCalls? filters

def Operand.large? : Operand → Option Int
  | .int n => if fits n then none else some n
  | .string _ | .float _ | .bool _ | .ident _ => none
  | .math l _ r | .logic l _ r | .member l r _ => l.large? <|> r.large?
  | .test _ _ _ args => largeExprs? args
  | .macroCall _ _ args => largeArgs? args
  | .call c => c.large?
  | .array items => largeExprs? items
  | .concat parts => largeOperands? parts

def Call.large? : Call → Option Int
  | .mk _ args => largeArgs? args

def largeCalls? : List Call → Option Int
  | [] => none
  | c :: rest => c.large? <|> largeCalls? rest

def largeExprs? : List Expr → Option Int
  | [] => none
  | e :: rest => e.large? <|> largeExprs? rest

def largeOperands? : List Operand → Option Int
  | [] => none
  | v :: rest => v.large? <|> largeOperands? rest

def largeArgs? : List (String × Expr) → Option Int
  | [] => none
  | (_, e) :: rest => e.large? <|> largeArgs? rest

end

def MacroDef.large? (m : MacroDef) : Option Int :=
  m.params.findSome? fun p => p.2.bind Operand.large?

mutual

def Node.large? : Node → Option Int
  | .text _ | .parent | .extend _ _ | .embed _ _ _ | .load _ _ _ | .raw _ _ _ | .leave _ | .next _
  | .comment _ => none
  | .print _ e | .set _ _ e _ => e.large?
  | .definition _ m body _ => m.large? <|> largeNodes? body
  | .filter _ f body _ => f.large? <|> largeNodes? body
  | .block _ _ body _ => largeNodes? body
  | .loop _ _ _ container body otherwise _ => container.large? <|> largeNodes? body <|> largeNodes? otherwise
  | .cond branches _ otherwise _ => largeBranches? branches <|> largeNodes? otherwise

def Branch.large? : Branch → Option Int
  | .mk _ e body => e.large? <|> largeNodes? body

def largeNodes? : List Node → Option Int
  | [] => none
  | n :: rest => n.large? <|> largeNodes? rest

def largeBranches? : List Branch → Option Int
  | [] => none
  | b :: rest => b.large? <|> largeBranches? rest

end

mutual

/-- The blocks of a body, with those inside them behind them. -/
def Node.blocks : Node → List (String × List Node)
  | .block _ name body _ => (name, body) :: blocksOf body
  | _ => []

def blocksOf : List Node → List (String × List Node)
  | [] => []
  | n :: rest => n.blocks ++ blocksOf rest

end

/-- The first name that stands twice. -/
def repeated? {α : Type} : List (String × α) → List String → Option String
  | [], _ => none
  | (n, _) :: rest, seen => if seen.contains n then some n else repeated? rest (n :: seen)

def macrosOf (nodes : List Node) : List (String × MacroDef × List Node) :=
  nodes.filterMap fun n => match n with
    | .definition _ m body _ => some (m.name, m, body)
    | _ => none

def importsOf (nodes : List Node) : List (String × String) :=
  nodes.filterMap fun n => match n with
    | .load _ file space => some (file, space)
    | _ => none

def parentOf? (nodes : List Node) : Option String :=
  nodes.findSome? fun n => match n with
    | .extend _ name => some name
    | _ => none

def placeIn (source : List Char) (left : Nat) : Nat × Nat :=
  let read := source.take (source.length - left)
  (read.countP (· == '\n') + 1, (read.reverse.takeWhile (· != '\n')).length + 1)

/-- The template of a text. -/
def parse (name source : String) : Except ParseFault Template :=
  let cs := source.toList
  let (nodes, rest) := Reader.template cs
  if !rest.isEmpty then
    let (line, column) := placeIn cs rest.length
    .error (.malformed line column)
  else match largeNodes? nodes with
    | some n => .error (.integerOutOfBounds n)
    | none =>
      let nodes := cutBlanks nodes
      let blocks := blocksOf nodes
      let macros := macrosOf nodes
      match repeated? blocks [], repeated? macros [] with
      | some n, _ => .error (.repeatedBlock n)
      | none, some n => .error (.repeatedMacro n)
      | none, none => .ok ⟨name, nodes, parentOf? nodes, blocks, macros, importsOf nodes⟩

/-- Templates by name, in no particular order. -/
structure Set where
  templates : List Template

inductive SetFault where
  | missingParent (name parent : String)
  | circular (name : String) (chain : List String)
  | missingImport (name file : String)

def SetFault.message : SetFault → String
  | .missingParent name parent =>
    s!"Template '{name}' is inheriting from '{parent}', which doesn't exist or isn't loaded."
  | .circular name chain =>
    s!"Circular extend detected for template '{name}'. Inheritance chain: `[" ++
      String.intercalate ", " (chain.map Text.quoted) ++ "]`"
  | .missingImport name file =>
    s!"Template `{name}` loads macros from `{file}` which isn't present in Tera"

namespace Set

def get? (set : Set) (name : String) : Option Template :=
  set.templates.find? (·.name == name)

/-- The ancestors of `start`, nearest first; `t` is the last one found. -/
def chain (set : Set) (start : String) : Nat → Template → List String → Except SetFault (List String)
  | 0, _, found => .error (.circular start found)
  | fuel + 1, t, found =>
    if !found.isEmpty && t.name == start then .error (.circular start found)
    else match t.parent? with
      | none => .ok found
      | some p =>
        match set.get? p with
        | none => .error (.missingParent t.name p)
        | some parent => chain set start fuel parent (found ++ [p])

def ancestors (set : Set) (t : Template) : Except SetFault (List String) :=
  set.chain t.name (set.templates.length + 1) t []

def missingImport? (set : Set) (t : Template) : Option SetFault :=
  t.imports.findSome? fun (file, _) =>
    if (set.get? file).isNone then some (.missingImport t.name file) else none

/-- Why the set is not complete, if it is not. -/
def fault? (set : Set) : Option SetFault :=
  (set.templates.findSome? fun t => match set.ancestors t with
    | .error e => some e
    | .ok _ => none) <|> set.templates.findSome? set.missingImport?

/-- A later template takes the place of an earlier one of its name. -/
def ofList (templates : List Template) : Set :=
  ⟨templates.foldr (fun t acc => if acc.any (·.name == t.name) then acc else t :: acc) []⟩

end Set
end Template
end ApiStencil
