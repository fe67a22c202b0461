import ApiStencil.Yaml.Token.Basic
import ApiStencil.Yaml.Token.Lexer
/-!
The grammar of YAML as a machine that gives one event in each step. What has been begun and is not
finished yet stands on a stack.
-/
set_option autoImplicit false

namespace ApiStencil.Yaml

/-- What is expected next. -/
inductive Mode where
  /-- A document; only the first one may begin without a rule. -/
  | document (first : Bool)
  | documentContent
  | documentEnd
  | blockNode
  | blockItem (first : Bool)
  /-- An item of a sequence that is not indented more than the key it belongs to. -/
  | levelItem
  | blockKey (first : Bool)
  | blockValue
  | flowItem (first : Bool)
  /-- Key, value and end of a single pair inside brackets. -/
  | pairKey
  | pairValue
  | pairEnd
  | flowKey (first : Bool)
  | flowValue
  | noFlowValue
  | finished

structure Grammar where
  lexer : Lexer
  mode : Mode
  stack : List Mode
  /-- Where the collections around begin, innermost first. -/
  opened : List Mark
  /-- What handles of tags stand for. -/
  handles : List (String × String)

namespace Grammar

abbrev G := StateT Grammar (Except Fault)

abbrev Found := Event × Mark

def ofString (s : String) : Grammar := ⟨.ofString s, .document true, [], [], []⟩

def peek : G Token := fun g => do
  let (t, l) ← g.lexer.peek
  return (t, { g with lexer := l })

def drop : G Unit := modify fun g => { g with lexer := g.lexer.drop }

/-- Drops the first token and gives the next one. -/
def next : G Token := do
  drop
  peek

def become (m : Mode) : G Unit := modify fun g => { g with mode := m }

def later (m : Mode) : G Unit := modify fun g => { g with stack := m :: g.stack }

/-- Goes on with what stands on top of the stack. -/
def resume : G Unit := modify fun g =>
  match g.stack with
  | m :: rest => { g with mode := m, stack := rest }
  | [] => { g with mode := .finished }

def openAt (m : Mark) : G Unit := modify fun g => { g with opened := m :: g.opened }

def close : G Unit := modify fun g => { g with opened := g.opened.drop 1 }

def fail {α : Type} (text : String) (m : Mark) (context : Option (String × Mark)) : G α :=
  throw (.malformed text m context)

/-- A problem inside the innermost collection. -/
def failInside {α : Type} (text : String) (m : Mark) (context : String) : G α := do
  let g ← get
  fail text m (some (context, g.opened.headD .start))

/-- A scalar without text where nothing is written. -/
def nothing (m : Mark) : G Found := return (.scalar none ⟨"", .plain, none⟩, m)

def defaultHandles : List (String × String) := [("!", "!"), ("!!", "tag:yaml.org,2002:")]

/-- The directives before a document. -/
def directives : Nat → Bool → List (String × String) → G (List (String × String))
  | 0, _, acc => return acc
  | fuel + 1, versioned, acc => do
    let t ← peek
    match t.kind with
    | .version major minor =>
      if versioned then fail "found duplicate %YAML directive" t.start none
      else if major != 1 || (minor != 1 && minor != 2) then fail "found incompatible YAML document" t.start none
      else
        drop
        directives fuel true acc
    | .handle handle lead =>
      if (acc.lookup handle).isSome then fail "found duplicate %TAG directive" t.start none
      else
        drop
        directives fuel versioned ((handle, lead) :: acc)
    | _ => return acc

/-- Reads the directives of a document. -/
def setHandles : G Unit := do
  let own ← directives (← get).lexer.reach false []
  modify fun g => { g with handles := own ++ defaultHandles }

def isDocumentMark : Token.Kind → Bool
  | .version _ _ | .handle _ _ | .documentStart | .documentEnd | .streamEnd => true
  | _ => false

/-- The first token that is no end of a document. -/
def pastEnds : Nat → G Token
  | 0 => peek
  | fuel + 1 => do
    let t ← peek
    if t.kind == .documentEnd then
      drop
      pastEnds fuel
    else return t

def document (first : Bool) : G Found := do
  let t ← if first then peek else pastEnds (← get).lexer.reach
  if t.kind == .streamEnd then
    become .finished
    drop
    return (.streamEnd, t.start)
  else if first && !(isDocumentMark t.kind && t.kind != .documentEnd) then
    setHandles
    later .documentEnd
    become .blockNode
    return (.documentStart, t.start)
  else
    setHandles
    let rule ← peek
    if rule.kind != .documentStart then fail "did not find expected <document start>" rule.start none
    else
      later .documentEnd
      become .documentContent
      drop
      return (.documentStart, t.start)

def documentEnd : G Found := do
  let t ← peek
  if t.kind == .documentEnd then drop
  become (.document false)
  return (.documentEnd, t.start)

/-- Anchor and tag before a node, each with the place where it begins. -/
structure Properties where
  anchor : Option (String × Mark)
  tag : Option ((String × String) × Mark)

/-- Anchor and tag in either order, and the token behind them. -/
def properties : Nat → Properties → G (Properties × Token)
  | 0, p => do return (p, ← peek)
  | fuel + 1, p => do
    let t ← peek
    match t.kind, p.anchor, p.tag with
    | .anchor name, none, _ =>
      drop
      properties fuel { p with anchor := some (name, t.start) }
    | .tag handle suffix, _, none =>
      drop
      properties fuel { p with tag := some ((handle, suffix), t.start) }
    | _, _, _ => return (p, t)

def Properties.start (p : Properties) (t : Token) : Mark :=
  match p.anchor, p.tag with
  | some (_, m), some (_, n) => if m.index ≤ n.index then m else n
  | some (_, m), none | none, some (_, m) => m
  | none, none => t.start

/-- The tag in full. -/
def fullTag (p : Properties) (start : Mark) : G (Option String) := do
  match p.tag with
  | none => return none
  | some (("", suffix), _) => return some suffix
  | some ((handle, suffix), m) =>
    match (← get).handles.lookup handle with
    | some lead => return some (lead ++ suffix)
    | none => fail "found undefined tag handle" m (some ("while parsing a node", start))

/-- A scalar with its tag; an exclamation mark alone is none. -/
def scalarOf (text : String) (form : Form) (tag : Option String) : Scalar :=
  if tag == some "!" then ⟨text, form, none⟩ else ⟨text, form, tag⟩

def node (block level : Bool) : G Found := do
  let t ← peek
  match t.kind with
  | .alias name =>
    resume
    drop
    return (.alias name, t.start)
  | _ =>
    let (p, t) ← properties 2 ⟨none, none⟩
    let start := p.start t
    let tag ← fullTag p start
    let anchor := p.anchor.map (·.1)
    if level && t.kind == .blockEntry then
      become .levelItem
      return (.sequence anchor tag, start)
    else
      match t.kind, block with
      | .scalar text form, _ =>
        resume
        drop
        return (.scalar anchor (scalarOf text form tag), start)
      | .flowSequence, _ =>
        become (.flowItem true)
        return (.sequence anchor tag, start)
      | .flowMapping, _ =>
        become (.flowKey true)
        return (.mapping anchor tag, start)
      | .blockSequence, true =>
        become (.blockItem true)
        return (.sequence anchor tag, start)
      | .blockMapping, true =>
        become (.blockKey true)
        return (.mapping anchor tag, start)
      | _, _ =>
        if p.anchor.isSome || tag.isSome then
          resume
          return (.scalar anchor ⟨"", .plain, tag⟩, start)
        else
          let context := if block then "while parsing a block node" else "while parsing a flow node"
          fail "did not find expected node content" t.start (some (context, start))

/-- A node that is followed by `m`, unless the token shows that there is none. -/
def nodeOr (absent : Bool) (empty : Mark) (m : Mode) (block level : Bool) : G Found := do
  if absent then
    become m
    nothing empty
  else
    later m
    node block level

def begin_ (first : Bool) : G Unit := do
  if first then
    openAt (← peek).start
    drop

def end_ (e : Event) (t : Token) : G Found := do
  resume
  close
  drop
  return (e, t.start)

def blockItem (first : Bool) : G Found := do
  begin_ first
  let t ← peek
  match t.kind with
  | .blockEntry =>
    let n ← next
    nodeOr (n.kind == .blockEntry || n.kind == .blockEnd) t.stop (.blockItem false) true false
  | .blockEnd => end_ .sequenceEnd t
  | _ => failInside "did not find expected '-' indicator" t.start "while parsing a block collection"

def levelItem : G Found := do
  let t ← peek
  if t.kind == .blockEntry then
    let n ← next
    nodeOr (n.kind == .blockEntry || n.kind == .key || n.kind == .value || n.kind == .blockEnd) t.stop .levelItem
      true false
  else
    resume
    return (.sequenceEnd, t.start)

/-- Whether a key or a value is left out before this token. -/
def endsPart (k : Token.Kind) : Bool := k == .key || k == .value || k == .blockEnd

def blockKey (first : Bool) : G Found := do
  begin_ first
  let t ← peek
  match t.kind with
  | .key =>
    let n ← next
    nodeOr (endsPart n.kind) t.stop .blockValue true true
  | .blockEnd => end_ .mappingEnd t
  | _ => failInside "did not find expected key" t.start "while parsing a block mapping"

def blockValue : G Found := do
  let t ← peek
  if t.kind == .value then
    let n ← next
    nodeOr (endsPart n.kind) t.stop (.blockKey false) true true
  else
    become (.blockKey false)
    nothing t.start

/-- The comma before another item; `stop` is the token that ends the collection. -/
def comma (first : Bool) (stop : Token.Kind) (text context : String) : G Token := do
  let t ← peek
  if first || t.kind == stop then return t
  else if t.kind == .flowEntry then next
  else failInside text t.start context

def flowItem (first : Bool) : G Found := do
  begin_ first
  let t ← comma first .flowSequenceEnd "did not find expected ',' or ']'" "while parsing a flow sequence"
  match t.kind with
  | .flowSequenceEnd => end_ .sequenceEnd t
  | .key =>
    become .pairKey
    drop
    return (.mapping none none, t.start)
  | _ =>
    later (.flowItem false)
    node false false

/-- A pair without a key takes the token that shows it. -/
def pairKey : G Found := do
  let t ← peek
  if t.kind == .value || t.kind == .flowEntry || t.kind == .flowSequenceEnd then
    drop
    become .pairValue
    nothing t.stop
  else
    later .pairValue
    node false false

def pairValue : G Found := do
  let t ← peek
  if t.kind == .value then
    let n ← next
    nodeOr (n.kind == .flowEntry || n.kind == .flowSequenceEnd) n.start .pairEnd false false
  else
    become .pairEnd
    nothing t.start

def pairEnd : G Found := do
  let t ← peek
  become (.flowItem false)
  return (.mappingEnd, t.start)

def flowKey (first : Bool) : G Found := do
  begin_ first
  let t ← comma first .flowMappingEnd "did not find expected ',' or '\x7d'" "while parsing a flow mapping"
  match t.kind with
  | .flowMappingEnd => end_ .mappingEnd t
  | .key =>
    let n ← next
    nodeOr (n.kind == .value || n.kind == .flowEntry || n.kind == .flowMappingEnd) n.start .flowValue false false
  | _ =>
    later .noFlowValue
    node false false

def flowValue : G Found := do
  let t ← peek
  if t.kind == .value then
    let n ← next
    nodeOr (n.kind == .flowEntry || n.kind == .flowMappingEnd) n.start (.flowKey false) false false
  else
    become (.flowKey false)
    nothing t.start

def noFlowValue : G Found := do
  let t ← peek
  become (.flowKey false)
  nothing t.start

/-- The next event and the place where it begins. -/
def step : G Found := do
  match (← get).mode with
  | .document first => document first
  | .documentContent =>
    let t ← peek
    if isDocumentMark t.kind then
      resume
      nothing t.start
    else node true false
  | .documentEnd => documentEnd
  | .blockNode => node true false
  | .blockItem first => blockItem first
  | .levelItem => levelItem
  | .blockKey first => blockKey first
  | .blockValue => blockValue
  | .flowItem first => flowItem first
  | .pairKey => pairKey
  | .pairValue => pairValue
  | .pairEnd => pairEnd
  | .flowKey first => flowKey first
  | .flowValue => flowValue
  | .noFlowValue => noFlowValue
  | .finished => return (.streamEnd, .start)

end Grammar
end ApiStencil.Yaml
