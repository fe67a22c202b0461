import ApiStencil.Yaml.Event.Grammar
import ApiStencil.Yaml.Token.Basic
/-!
Documents. The tree of one is built as its events come; where they stop short, the tree ends in a cut.
-/
set_option autoImplicit false

namespace ApiStencil.Yaml

inductive Node where
  | scalar (value : Scalar) (mark : Mark)
  /-- Another node, known by the number of its event. -/
  | alias (target : Nat) (mark : Mark)
  | sequence (tag : Option String) (items : List Node) (mark : Mark)
  | mapping (tag : Option String) (entries : List (Node × Node)) (mark : Mark)
  /-- Nothing at all, not even an empty scalar. -/
  | void (mark : Mark)
  | cut

instance : Inhabited Node := ⟨.cut⟩

namespace Node

/-- Keys with their values; of the last key the value may be missing. -/
def pairs : List Node → List (Node × Node)
  | [] => []
  | [k] => [(k, .cut)]
  | k :: v :: rest => (k, v) :: pairs rest

mutual

/-- Whether no part of the node has been cut off. -/
def isWhole : Node → Bool
  | .cut => false
  | .sequence _ items _ => areWhole items
  | .mapping _ entries _ => haveWhole entries
  | .scalar _ _ | .alias _ _ | .void _ => true

def areWhole : List Node → Bool
  | [] => true
  | n :: rest => n.isWhole && areWhole rest

def haveWhole : List (Node × Node) → Bool
  | [] => true
  | (k, v) :: rest => k.isWhole && v.isWhole && haveWhole rest

end
end Node

/-- What an event adds to a tree. Aliases know the numbers of their anchors. -/
inductive Part where
  | alias (anchor : Nat)
  | scalar (value : Scalar)
  | sequence (tag : Option String)
  | mapping (tag : Option String)
  | finish

/-- A collection that has been begun, with its children, the last one first. -/
structure Branch where
  number : Nat
  isMapping : Bool
  tag : Option String
  mark : Mark
  children : List Node

def Branch.node (b : Branch) : Node :=
  if b.isMapping then .mapping b.tag (Node.pairs b.children.reverse) b.mark
  else .sequence b.tag b.children.reverse b.mark

/-- A tree that is being built. -/
structure Growth where
  branches : List Branch
  root : Option Node
  /-- All nodes by the number of their event. -/
  nodes : List (Nat × Node)

namespace Growth

def empty : Growth := ⟨[], none, []⟩

def add (g : Growth) (number : Nat) (n : Node) : Growth :=
  let g := { g with nodes := (number, n) :: g.nodes }
  match g.branches with
  | [] => { g with root := some n }
  | b :: rest => { g with branches := { b with children := n :: b.children } :: rest }

/-- Ends the innermost collection. -/
def finish (g : Growth) : Growth :=
  match g.branches with
  | [] => g
  | b :: rest => { g with branches := rest }.add b.number b.node

/-- `target` gives the number of the event that an anchor stands for. -/
def step (target : Nat → Nat) (g : Growth) (number : Nat) (p : Part × Mark) : Growth :=
  match p.1 with
  | .alias a => g.add number (.alias (target a) p.2)
  | .scalar v => g.add number (.scalar v p.2)
  | .sequence tag => { g with branches := ⟨number, false, tag, p.2, []⟩ :: g.branches }
  | .mapping tag => { g with branches := ⟨number, true, tag, p.2, []⟩ :: g.branches }
  | .finish => g.finish

/-- Ends a collection whose end has been cut off. -/
def cutOff (g : Growth) : Growth :=
  match g.branches with
  | [] => g
  | b :: rest => { g with branches := { b with children := .cut :: b.children } :: rest }.finish

def cutAll : Nat → Growth → Growth
  | 0, g => g
  | n + 1, g => cutAll n g.cutOff

end Growth

/-!
The first document of a text, and whether another one follows. A fault in the text does not keep what
stands before it from being read.
-/

structure Document where
  root : Node
  nodes : List (Nat × Node)
  /-- How many events the document has. -/
  size : Nat
  fault : Option Fault
  followed : Bool

/-- The events of a document as they are found. -/
structure Intake where
  /-- The last part first. -/
  parts : List (Part × Mark)
  size : Nat
  /-- Numbers of the anchors by name, the last one first. A name that is used again has a new number,
  which is the count of names so far. -/
  anchors : List (String × Nat)
  /-- The event that an anchor stands for by its number, the last one first. -/
  targets : List (Nat × Nat)

namespace Intake

def empty : Intake := ⟨[], 0, [], []⟩

def names (i : Intake) : Nat := (i.anchors.map (·.1)).eraseDups.length

def add (i : Intake) (anchor : Option String) (p : Part) (m : Mark) : Intake :=
  let i := match anchor with
    | some name =>
      let n := i.names
      { i with anchors := (name, n) :: i.anchors, targets := (n, i.size) :: i.targets }
    | none => i
  { i with parts := (p, m) :: i.parts, size := i.size + 1 }

/-- The parts with one more event, or the fault of an alias that stands for nothing. -/
def take (i : Intake) (e : Event) (m : Mark) : Except Fault Intake :=
  match e with
  | .alias name =>
    match i.anchors.lookup name with
    | some n => .ok (i.add none (.alias n) m)
    | none => .error (.unknownAnchor m)
  | .scalar anchor v => .ok (i.add anchor (.scalar v) m)
  | .sequence anchor tag => .ok (i.add anchor (.sequence tag) m)
  | .mapping anchor tag => .ok (i.add anchor (.mapping tag) m)
  | .sequenceEnd | .mappingEnd => .ok (i.add none .finish m)
  | .documentStart | .documentEnd | .streamEnd => .ok i

def grow (target : Nat → Nat) (parts : List (Part × Mark)) : Growth :=
  parts.zipIdx.foldl (fun g (p, n) => g.step target n p) .empty

def document (i : Intake) (whole : Option Mark) (fault : Option Fault) (followed : Bool) : Document :=
  let target := fun n => (i.targets.lookup n).getD 0
  let g := grow target i.parts.reverse
  let g := g.cutAll g.branches.length
  let missing := match whole with
    | some m => Node.void m
    | none => .cut
  ⟨g.root.getD missing, g.nodes, i.size, fault, followed⟩

end Intake

/-- Whether another document, or anything that is none, follows. -/
def isFollowed (g : Grammar) : Bool :=
  match Grammar.step.run g with
  | .ok ((.streamEnd, _), _) => false
  | _ => true

/-- More events than a character of a text can stand for. -/
def maxEvents : Nat := 100

def Document.collect : Nat → Intake → Grammar → Document
  | 0, i, _ => i.document none (some .noDocument) false
  | fuel + 1, i, g =>
    match Grammar.step.run g with
    | .error e => i.document none (some e) false
    | .ok ((.streamEnd, m), _) => i.document (some m) none false
    | .ok ((.documentEnd, _), g) => i.document none none (isFollowed g)
    | .ok ((e, m), g) =>
      match i.take e m with
      | .error e => i.document none (some e) false
      | .ok i => collect fuel i g

/-- The place of the first character that may not stand in a text, counted in bytes. -/
def firstControl? : Nat → List Char → Option Nat
  | _, [] => none
  | n, c :: rest => if isAllowed c then firstControl? (n + c.utf8Size) rest else some n

def Document.ofString (s : String) : Document :=
  match firstControl? 0 s.toList with
  | some n => Intake.empty.document none (some (.control n)) false
  | none => collect (maxEvents * (s.length + 1)) .empty (.ofString s)

end ApiStencil.Yaml
