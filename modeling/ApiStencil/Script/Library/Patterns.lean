import ApiStencil.Script.Library.Texts
/-!
Patterns: searching, and what texts do with patterns.
-/
set_option autoImplicit false

namespace ApiStencil.Script.Library.Patterns
open M

def proto : Intrinsic := .proto .regex

def maker : Intrinsic := .maker .regex

/-- Gives an object the pattern that a notation stands for. -/
def become (r : Nat) (source flags : Units) : M Unit := do
  match searchPattern? source flags with
  | none => fail .syntaxKind "invalid regular expression"
  | some regex => setKind r (.regex source flags regex)

def textOr (otherwise : Units) (v : Value) : M Units := do
  match v with
  | .undefined => return otherwise
  | v => toText v

/-- Whether a value counts as a pattern. -/
def isPattern (v : Value) : M Bool := do
  match v with
  | .object _ =>
    match ← getMember v KnownSymbol.match.key with
    | .undefined => return (← search? v).isSome
    | s => return truthy s
  | _ => return false

def make (c : Call) : M Value := do
  let given := c.arg 0
  let isOne ← isPattern given
  let same ← match c.newTarget, c.arg 1 with
    | .undefined, .undefined =>
      if isOne then pure (sameValue (← getNamed given "constructor") (.object maker.ref)) else pure false
    | _, _ => pure false
  if same then return given
  let (source, flags) ← match ← search? given with
    | some s => pure (s.source, ← textOr s.flags (c.arg 1))
    | none =>
      if isOne then do
        let source ← getNamed given "source"
        let flags ← match c.arg 1 with
          | .undefined => getNamed given "flags"
          | f => pure f
        pure (← textOr #[] source, ← textOr #[] flags)
      else pure (← textOr #[] given, ← textOr #[] (c.arg 1))
  let r ← newInstance c .regex .plain
  become r source flags
  addSlot r (.ofString "lastIndex") (.data (.ofNat 0) true false false)
  return .object r

def thisSearch (c : Call) : M Search := do
  match ← search? c.this with
  | some s => return s
  | none => typeError "RegExp object expected"

def compile (c : Call) : M Value := do
  let s ← thisSearch c
  let (source, flags) ← match ← search? (c.arg 0) with
    | some other => pure (other.source, other.flags)
    | none => pure (← textOr #[] (c.arg 0), ← textOr #[] (c.arg 1))
  become s.ref source flags
  putNamed c.this "lastIndex" (.ofNat 0)
  return c.this

def exec (c : Call) : M Value := do
  let s ← thisSearch c
  let u ← toText (c.arg 0)
  match ← execute s u with
  | some spans => describeMatch s u spans
  | none => return .null

def test (c : Call) : M Value := do
  let _ ← needObject c.this
  boolean (← searchBy c.this (← toText (c.arg 0))).isObject

/-- The notation with slashes and line ends escaped. -/
def sourceText (u : Units) : Units :=
  let step := fun ((acc, escaped, inClass) : Units × Bool × Bool) (w : UInt16) =>
    if escaped then (acc.push w, false, inClass)
    else if w == 92 then (acc.push w, true, inClass)
    else if w == 10 then (acc ++ txt "\\n", false, inClass)
    else if w == 13 then (acc ++ txt "\\r", false, inClass)
    else if w == 47 && !inClass then (acc ++ txt "\\/", false, inClass)
    else (acc.push w, false, if w == 91 then true else if w == 93 then false else inClass)
  if u.isEmpty then txt "(?:)" else (u.foldl step (#[], false, false)).1

def source (c : Call) : M Value := do
  match ← search? c.this with
  | some s => text (sourceText s.source)
  | none =>
    if sameValue c.this (.object proto.ref) then text (txt "(?:)") else typeError "RegExp object expected"

def flagNames : List (String × Char) :=
  [("hasIndices", 'd'), ("global", 'g'), ("ignoreCase", 'i'), ("multiline", 'm'), ("dotAll", 's'), ("unicode", 'u'),
    ("unicodeSets", 'v'), ("sticky", 'y')]

def flags (c : Call) : M Value := do
  let _ ← needObject c.this
  let there ← flagNames.filterM fun (name, _) => do return truthy (← getNamed c.this name)
  text (Units.ofChars (there.map (·.2)))

def flag (mark : Char) (c : Call) : M Value := do
  match ← search? c.this with
  | some s => boolean (s.hasFlag mark)
  | none => if sameValue c.this (.object proto.ref) then undefined else typeError "RegExp object expected"

def toString (c : Call) : M Value := do
  let _ ← needObject c.this
  let source ← toText (← getNamed c.this "source")
  let flags ← toText (← getNamed c.this "flags")
  text (txt "/" ++ source ++ txt "/" ++ flags)

/-- Moves on behind a match that is empty, so that the next one is another. -/
def moveOn (this : Value) (u : Units) (unicode : Bool) : M Unit := do
  let i ← toLength (← getNamed this "lastIndex")
  putNamed this "lastIndex" (.ofNat (i + if unicode then u.widthAt i else 1))

/-- All matches of a global pattern, as objects. -/
def allMatches (this : Value) (u : Units) (unicode : Bool) : Nat → List Value → M (List Value)
  | 0, acc => return acc.reverse
  | n + 1, acc => do
    poll
    let found ← searchBy this u
    if !found.isObject then return acc.reverse
    if (← toText (← getMember found (.ofIndex 0))).isEmpty then moveOn this u unicode
    allMatches this u unicode n (found :: acc)

structure Manner where
  all : Bool
  unicode : Bool

def mannerOf (this : Value) : M Manner := do
  let flags ← toText (← getNamed this "flags")
  return ⟨flags.contains 103, flags.contains 117 || flags.contains 118⟩

def matchIn (c : Call) : M Value := do
  let _ ← needObject c.this
  let u ← toText (c.arg 0)
  let manner ← mannerOf c.this
  if !manner.all then searchBy c.this u
  else
    putNamed c.this "lastIndex" (.ofNat 0)
    let found ← allMatches c.this u manner.unicode maxItems []
    if found.isEmpty then return .null
    newList (← found.mapM fun m => do return .text (← toText (← getMember m (.ofIndex 0))))

def matchAllIn (c : Call) : M Value := do
  let _ ← needObject c.this
  let u ← toText (c.arg 0)
  let flags ← toText (← getNamed c.this "flags")
  let copy ← construct (.object maker.ref) [c.this, .text flags] (.object maker.ref)
  putNamed copy "lastIndex" (← getNamed c.this "lastIndex")
  let all := flags.contains 103
  let unicode := flags.contains 117 || flags.contains 118
  return .object (← newPlain (.fixture .regexWalk) (.walk (.found copy u all unicode false)))

def searchIn (c : Call) : M Value := do
  let _ ← needObject c.this
  let u ← toText (c.arg 0)
  let before ← getNamed c.this "lastIndex"
  putNamed c.this "lastIndex" (.ofNat 0)
  let found ← searchBy c.this u
  putNamed c.this "lastIndex" before
  if found.isObject then getNamed found "index" else return .ofInt (-1)

/-- What stands in place of one match. -/
def replacement (f : Value) (template : Option Units) (u : Units) (found : Value) : M (Nat × Nat × Units) := do
  let n ← lengthOf found
  let matched ← toText (← getMember found (.ofIndex 0))
  let place ← toClamped (← getNamed found "index") u.size 0
  let groups ← (List.range' 1 (n - 1)).mapM fun i => do
    match ← getMember found (.ofIndex i) with
    | .undefined => return Value.undefined
    | v => return .text (← toText v)
  let names ← getNamed found "groups"
  let new ← match template with
    | some t => Texts.filled ⟨u, matched, place, groups, names⟩ t
    | none => do
      let named := match names with
        | .undefined => []
        | names => [names]
      toText (← call f .undefined (.text matched :: groups ++ [.ofNat place, .text u] ++ named))
  return (place, place + matched.size, new)

def replaceIn (c : Call) : M Value := do
  let _ ← needObject c.this
  let u ← toText (c.arg 0)
  let template ← if ← isCallable (c.arg 1) then pure none else do pure (some (← toText (c.arg 1)))
  let manner ← mannerOf c.this
  let found ← if manner.all then do
      putNamed c.this "lastIndex" (.ofNat 0)
      allMatches c.this u manner.unicode maxItems []
    else do
      let m ← searchBy c.this u
      pure (if m.isObject then [m] else [])
  let (acc, last) ← found.foldlM (fun ((acc, last) : Units × Nat) m => do
    let (lo, hi, new) ← replacement (c.arg 1) template u m
    if lo < last then return (acc, last) else return (acc ++ u.extract last lo ++ new, hi)) (#[], 0)
  text (acc ++ u.extract last u.size)

/-- Pieces of a text between matches; the groups of a match stand between its pieces. -/
def splitFrom (s : Search) (u : Units) (limit : Nat) : Nat → Nat → Nat → List Value → List Value
  | 0, last, _, acc => (Value.text (u.extract last u.size) :: acc).reverse
  | n + 1, last, place, acc =>
    let finish := (Value.text (u.extract last u.size) :: acc).reverse
    if acc.length ≥ limit then acc.reverse
    else if u.size ≤ place then finish
    else
      match s.find? u place false with
      | none => finish
      | some spans =>
        match spans.getD 0 none with
        | none => finish
        | some (lo, hi) =>
          if u.size ≤ lo then finish
          else if hi == last then
            splitFrom s u limit n last (lo + if s.isUnicode then u.widthAt lo else 1) acc
          else
            let groups := (spans.toList.drop 1).map (spanText u)
            splitFrom s u limit n hi (if hi == lo then hi + 1 else hi)
              (groups.reverse ++ Value.text (u.extract last lo) :: acc)

def splitIn (c : Call) : M Value := do
  let _ ← needObject c.this
  let u ← toText (c.arg 0)
  let limit ← match c.arg 1 with
    | .undefined => pure 4294967295
    | v => toUint32 v
  match ← search? c.this with
  | none => typeError "RegExp object expected"
  | some s =>
    if limit == 0 then newList []
    else if u.isEmpty then
      if (s.find? u 0 true).isSome then newList [] else newList [.text u]
    else newList ((splitFrom s u limit (u.size + 2) 0 0 []).take limit)

def rows : List Native :=
  [.maker .regex 2 make, .symbolGetter maker .species (fun c => return c.this), .method proto "exec" 1 exec,
    .method proto "compile" 2 compile, .method proto "test" 1 test, .method proto "toString" 0 toString,
    .getter proto "source" source, .getter proto "flags" flags, .symbolMethod proto .match 1 matchIn,
    .symbolMethod proto .matchAll 1 matchAllIn, .symbolMethod proto .replace 2 replaceIn,
    .symbolMethod proto .search 1 searchIn, .symbolMethod proto .split 2 splitIn] ++
  flagNames.map fun (name, mark) => .getter proto name (flag mark)

end ApiStencil.Script.Library.Patterns
