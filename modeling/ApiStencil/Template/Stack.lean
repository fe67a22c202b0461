import ApiStencil.Template.Problem
import ApiStencil.Template.Value
/-!
Where variables are found. Frames lie on a stack: that of the template at the bottom, above it those
of loops, included templates and macros. A macro does not see the frames below its own.
-/
set_option autoImplicit false

namespace ApiStencil.Template

inductive FrameKind where
  | origin
  | loop
  | embedded
  | expansion (space name : String)
  deriving DecidableEq

inductive LoopState where
  | running
  | leaving
  | skipping
  deriving DecidableEq

/-- A loop under way; items of a list have no key. -/
structure Loop where
  key : Option String
  item : String
  entries : List (String × Json)
  current : Nat
  state : LoopState

structure Frame where
  kind : FrameKind
  /-- The template that the nodes being rendered come from. -/
  template : String
  locals : List (String × Json)
  loop : Option Loop

namespace Loop

def currentKey (l : Loop) : String :=
  ((l.entries[l.current]?).map (·.1)).getD ""

def currentValue (l : Loop) : Json :=
  ((l.entries[l.current]?).map (·.2)).getD .null

/-- The part before the first dot and, if there is one, the part behind it. -/
def splitDot (key : String) : String × Option String :=
  let head := key.toList.takeWhile (· != '.')
  match key.toList.drop head.length with
  | _ :: tail => (String.ofList head, some (String.ofList tail))
  | [] => (String.ofList head, none)

def find? (l : Loop) (key : String) : Option Json :=
  if key == "loop.index" then some (Json.ofNat (l.current + 1))
  else if key == "loop.index0" then some (Json.ofNat l.current)
  else if key == "loop.first" then some (.bool (l.current == 0))
  else if key == "loop.last" then some (.bool (l.current + 1 == l.entries.length))
  else if l.key == some key then some (.string l.currentKey)
  else
    match splitDot key with
    | (head, tail) =>
      if head == l.item then (match tail with
        | none => some l.currentValue
        | some way => follow? way l.currentValue)
      else none

end Loop

def findLocal? (locals : List (String × Json)) (key : String) : Option Json :=
  match Loop.splitDot key with
  | (head, none) => Json.lookup head locals
  | (head, some way) => (Json.lookup head locals).bind (follow? way)

def Frame.find? (f : Frame) (key : String) : Option Json :=
  findLocal? f.locals key <|> f.loop.bind (·.find? key)

/-- Whether the frames below are out of sight. -/
def FrameKind.closesView : FrameKind → Bool
  | .origin | .expansion _ _ => true
  | .loop | .embedded => false

def findInFrames? (key : String) : List Frame → Option Json
  | [] => none
  | f :: rest =>
    match f.find? key with
    | some v => some v
    | none => if f.kind.closesView then none else findInFrames? key rest

/-- A variable of the frames, or else of the context. -/
def findVariable? (context : List (String × Json)) (frames : List Frame) (key : String) : Option Json :=
  findInFrames? key frames <|> findLocal? context key

/-- The name whose value is the whole context as text. -/
def contextName : String := "__tera_context"

/-- All variables in view; those of a lower frame count more than those of a higher one. -/
def visible (context : List (String × Json)) : List Frame → List (String × Json) → List (String × Json)
  | [], found => found.foldl (fun acc x => Json.insertField x.1 x.2 acc) context
  | f :: rest, found =>
    let found := f.locals.foldl (fun acc x => Json.insertField x.1 x.2 acc) found
    let found := match f.loop with
      | none => found
      | some l =>
        let found := Json.insertField l.item l.currentValue found
        match l.key with
        | some k => Json.insertField k (.string l.currentKey) found
        | none => found
    match f.kind with
    | .expansion _ _ => found
    | _ => visible context rest found

/-- The inner text of the indices of a path that are not numbers or strings, in order. -/
def indexVariables : Nat → List Char → List String
  | 0, _ => []
  | _ + 1, [] => []
  | fuel + 1, '[' :: c :: rest =>
    if c == '"' || c == '\'' then indexVariables fuel rest
    else
      let (inner, rest) := closing 1 (c :: rest)
      let name := String.ofList inner
      if (Decimal.ofBase? 10 inner).isSome then indexVariables fuel rest
      else name :: indexVariables fuel rest
  | fuel + 1, _ :: rest => indexVariables fuel rest
where
  /-- What stands before the bracket that closes `depth` open ones, and what stands behind it. -/
  closing : Nat → List Char → List Char × List Char
    | _, [] => ([], [])
    | depth, c :: rest =>
      let depth := if c == '[' then depth + 1 else if c == ']' then depth - 1 else depth
      if depth == 0 then ([], rest)
      else
        let (inner, rest) := closing depth rest
        (c :: inner, rest)

/-- The first copy of `pat` replaced. -/
def replaceFirst (pat by_ : String) (s : String) : String :=
  match Text.splitOnText pat.toList s.toList with
  | first :: second :: rest =>
    String.ofList (first ++ by_.toList ++ List.intercalate pat.toList (second :: rest))
  | _ => s

/-- Indices as steps of a dotted way. -/
def dottedForm (path : String) : String :=
  [("/", "~1"), ("['", ".\""), ("[\"", ".\""), ("[", "."), ("']", "\""), ("\"]", "\""), ("]", "")].foldl
    (fun s x => Text.replaceText x.1 x.2 s) path

/-- A value as an index, if it is of a kind that can be one. -/
def indexText? : Json → Option String
  | .string s => some ("\"" ++ s ++ "\"")
  | .number n => some n.text
  | _ => none

/-- The value of a path in the template `template`; indices that are variables are looked up first. -/
def lookupPath (context : List (String × Json)) (frames : List Frame) (template : String) :
    Nat → String → Except Problem Json
  | 0, _ => .error .tooDeep
  | fuel + 1, path =>
    if !path.toList.contains '[' then
      match findVariable? context frames path with
      | some v => .ok v
      | none => .error (.unknownVariable path template)
    else do
      let evaluated ← (indexVariables path.length path.toList).foldlM (fun (acc : String) (name : String) =>
        match lookupPath context frames template fuel name with
        | .error e => .error (.badIndex path e)
        | .ok v =>
          match indexText? v with
          | none => .error (.indexKind name path)
          | some text => .ok (replaceFirst ("[" ++ name ++ "]") ("." ++ text) acc)) path
      let way := dottedForm evaluated
      match findVariable? context frames way with
      | some v => .ok v
      | none => .error (.unknownElement path template way)

/-- The value of an identifier, with the name of the template on top of the stack in messages. -/
def lookupIdent (context : List (String × Json)) (frames : List Frame) (name : String) : Except Problem Json :=
  if name == contextName then .ok (.string ((Json.object (visible context frames [])).pretty 0))
  else lookupPath context frames ((frames.head?.map (·.template)).getD "") (name.length + 1) name

end ApiStencil.Template
