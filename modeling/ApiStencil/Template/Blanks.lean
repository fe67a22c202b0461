import ApiStencil.Template.Tree
import ApiStencil.Text.Trim
/-!
Cutting blanks next to tags. A tag that asks for it cuts the text before it on the right or the text
behind it on the left; a text that is nothing but blanks goes away.
-/
set_option autoImplicit false

namespace ApiStencil.Template

/-- The text at the end of `nodes`, which are in reverse, cut on the right. -/
def trimLast (wanted : Bool) (nodes : List Node) : List Node :=
  if !wanted then nodes
  else match nodes with
    | .text s :: rest =>
      let t := Text.trimEnd s
      if t.isEmpty then rest else .text t :: rest
    | nodes => nodes

def trimFirstText (s : String) : List Node :=
  let t := Text.trimStart s
  if t.isEmpty then [] else [.text t]

def trimRaw (start stop : Trim) (s : String) : String :=
  let s := if start.right then Text.trimStart s else s
  if stop.left then Text.trimEnd s else s

/-- The tags of a node that face the nodes before and behind it. -/
def Node.facing : Node → Trim
  | .print t _ | .load t _ _ | .extend t _ | .embed t _ _ | .set t _ _ _ | .leave t | .next t | .comment t => t
  | .raw start _ stop | .definition start _ _ stop | .filter start _ _ stop | .block start _ _ stop
  | .loop start _ _ _ _ _ stop => ⟨start.left, stop.right⟩
  | .cond (.mk t _ _ :: _) _ _ stop => ⟨t.left, stop.right⟩
  | .cond [] _ _ stop => ⟨false, stop.right⟩
  | .text _ | .parent => ⟨false, false⟩

/-- Cuts the texts of a body. `cutNext` says whether the next text is cut on the left, `cutLast`
whether the last one is cut on the right; `done` are the nodes behind us, in reverse. -/
def sweep (cutNext cutLast : Bool) (done : List Node) : List Node → List Node
  | [] => (trimLast cutLast done).reverse
  | .text s :: rest =>
    sweep false cutLast ((if cutNext then trimFirstText s else [.text s]) ++ done) rest
  | .parent :: rest => sweep cutNext cutLast (.parent :: done) rest
  | n :: rest => sweep n.facing.right cutLast (n :: trimLast n.facing.left done) rest

/-- Cuts the bodies of branches; each is cut on the right where the tag behind it asks for it. -/
def sweepBranches (cutLast : Bool) : List Branch → List Branch
  | [] => []
  | .mk t e body :: rest =>
    let cut := match rest with
      | .mk next _ _ :: _ => next.left
      | [] => cutLast
    .mk t e (sweep t.right cut [] body) :: sweepBranches cutLast rest

mutual

/-- A node with all bodies inside it cut. -/
def Node.tidy : Node → Node
  | .raw start s stop => .raw start (trimRaw start stop s) stop
  | .definition start m body stop => .definition start m (sweep start.right stop.left [] (tidyAll body)) stop
  | .filter start f body stop => .filter start f (sweep start.right stop.left [] (tidyAll body)) stop
  | .block start name body stop => .block start name (sweep start.right stop.left [] (tidyAll body)) stop
  | .loop start key item container body otherwise stop =>
    .loop start key item container (sweep start.right stop.left [] (tidyAll body)) otherwise stop
  | .cond branches (some t) otherwise stop =>
    .cond (sweepBranches t.left (tidyBranches branches)) (some t)
      (sweep t.right stop.left [] (tidyAll otherwise)) stop
  | .cond branches none otherwise stop =>
    .cond (sweepBranches stop.left (tidyBranches branches)) none otherwise stop
  | .text s => .text s
  | .print t e => .print t e
  | .parent => .parent
  | .extend t name => .extend t name
  | .embed t names optional => .embed t names optional
  | .load t file space => .load t file space
  | .set t key value global => .set t key value global
  | .leave t => .leave t
  | .next t => .next t
  | .comment t => .comment t

def Branch.tidy : Branch → Branch
  | .mk t e body => .mk t e (tidyAll body)

def tidyAll : List Node → List Node
  | [] => []
  | n :: rest => n.tidy :: tidyAll rest

def tidyBranches : List Branch → List Branch
  | [] => []
  | b :: rest => b.tidy :: tidyBranches rest

end

/-- A whole template with its blanks cut. -/
def cutBlanks (nodes : List Node) : List Node :=
  sweep false false [] (tidyAll nodes)

end ApiStencil.Template
