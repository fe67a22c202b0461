import ApiStencil.Script.Library.Native
import ApiStencil.Text.Case
import ApiStencil.Text.Normal
/-!
Texts. Places count code units; iteration goes by code points.
-/
set_option autoImplicit false

namespace ApiStencil.Script.Library.Texts
open M

def proto : Intrinsic := .proto .text

def maker : Intrinsic := .maker .text

def symbolText (id : Nat) : M Units := do
  return txt "Symbol(" ++ (((← look).symbols[id]?).bind (·.description)).getD #[] ++ txt ")"

def make (c : Call) : M Value := do
  let u ← match c.args, c.newTarget with
    | [], _ => pure #[]
    | .symbol id :: _, .undefined => symbolText id
    | v :: _, _ => toText v
  match c.newTarget with
  | .undefined => text u
  | _ => return .object (← newInstance c .text (.text u))

/-- The text that a method is called on. -/
def receiver (c : Call) : M Units := do
  if c.this.isNullish then typeError "null or undefined are forbidden"
  toText c.this

def thisText (c : Call) : M Units := do
  match c.this with
  | .text u => return u
  | v =>
    match ← kind? v with
    | some (.text u) => return u
    | _ => typeError "not a string"

def fromCharCode (c : Call) : M Value := do
  let us ← c.args.mapM fun v => do return (wrapUnsigned 16 (integerOf (← toNumber v))).toUInt16
  text us.toArray

def fromCodePoint (c : Call) : M Value := do
  let ns ← c.args.mapM fun v => do
    let x ← toNumber v
    if 0.0 ≤ x && x ≤ 1114111.0 && x.floor == x then return x.toUInt64.toNat else rangeError "invalid code point"
  text (Units.ofPoints ns)

def raw (c : Call) : M Value := do
  let parts ← getNamed (.object (← toObject (c.arg 0))) "raw"
  let parts := Value.object (← toObject parts)
  let n ← lengthOf parts
  let pieces ← (List.range n).mapM fun i => do
    let part ← toText (← getMember parts (.ofIndex i))
    if i + 1 < n && i + 1 < c.args.length then return part ++ (← toText (c.arg (i + 1))) else return part
  text (Units.concat pieces)

def unitAt (u : Units) (x : Float) : Option UInt16 :=
  if 0.0 ≤ x && x < Float.ofNat u.size then u[x.toUInt64.toNat]? else none

def at_ (c : Call) : M Value := do
  let u ← receiver c
  let x ← toInteger (c.arg 0)
  match unitAt u (if x < 0.0 then x + Float.ofNat u.size else x) with
  | some w => text #[w]
  | none => undefined

def charAt (c : Call) : M Value := do
  let u ← receiver c
  text ((unitAt u (← toInteger (c.arg 0))).elim #[] fun w => #[w])

def charCodeAt (c : Call) : M Value := do
  let u ← receiver c
  return .number ((unitAt u (← toInteger (c.arg 0))).elim (0.0 / 0.0) fun w => Float.ofNat w.toNat)

def codePointAt (c : Call) : M Value := do
  let u ← receiver c
  let x ← toInteger (c.arg 0)
  if (unitAt u x).isSome then return .ofNat (u.pointAt x.toUInt64.toNat) else undefined

def concat (c : Call) : M Value := do
  let u ← receiver c
  text (Units.concat (u :: (← c.args.mapM toText)))

/-- Refuses a pattern where a text is wanted. -/
def wanted (v : Value) : M Units := do
  match v with
  | .object _ =>
    let isPattern ← match ← getMember v KnownSymbol.match.key with
      | .undefined => pure (← search? v).isSome
      | s => pure (truthy s)
    if isPattern then typeError "regexp not supported" else toText v
  | v => toText v

def includes (c : Call) : M Value := do
  let u ← receiver c
  let pat ← wanted (c.arg 0)
  boolean (u.find? pat (← toClamped (c.arg 1) u.size 0)).isSome

def startsWith (c : Call) : M Value := do
  let u ← receiver c
  let pat ← wanted (c.arg 0)
  boolean (u.standsAt pat (← toClamped (c.arg 1) u.size 0))

def endsWith (c : Call) : M Value := do
  let u ← receiver c
  let pat ← wanted (c.arg 0)
  let hi ← toClamped (c.arg 1) u.size u.size
  boolean (pat.size ≤ hi && u.standsAt pat (hi - pat.size))

def ofPlace : Option Nat → Value
  | some i => .ofNat i
  | none => .ofInt (-1)

def indexOf (c : Call) : M Value := do
  let u ← receiver c
  let pat ← toText (c.arg 0)
  return ofPlace (u.find? pat (← toClamped (c.arg 1) u.size 0))

def lastIndexOf (c : Call) : M Value := do
  let u ← receiver c
  let pat ← toText (c.arg 0)
  let x ← toNumber (c.arg 1)
  if u.size < pat.size then return ofPlace none
  let last := u.size - pat.size
  let start := if x.isNaN || x ≥ Float.ofNat last then last else if x ≤ 0.0 then 0 else x.toUInt64.toNat
  return ofPlace (u.findBack? pat start)

/-- The order of code points of the composed forms. -/
def localeCompare (c : Call) : M Value := do
  let u ← receiver c
  let v ← toText (c.arg 0)
  let a := Text.Normal.compose (Text.Normal.decompose false u.points)
  let b := Text.Normal.compose (Text.Normal.decompose false v.points)
  return .ofInt (match compare a b with
    | .lt => -1
    | .eq => 0
    | .gt => 1)

def normalize (c : Call) : M Value := do
  let u ← receiver c
  let form ← match c.arg 0 with
    | .undefined => pure "NFC"
    | v => do pure (← toText v).toText
  let decomposed := fun (wide : Bool) => Text.Normal.decompose wide u.points
  match form with
  | "NFC" => text (Units.ofPoints (Text.Normal.compose (decomposed false)))
  | "NFD" => text (Units.ofPoints (decomposed false))
  | "NFKC" => text (Units.ofPoints (Text.Normal.compose (decomposed true)))
  | "NFKD" => text (Units.ofPoints (decomposed true))
  | _ => rangeError "bad normalization form"

def pad (atStart : Bool) (c : Call) : M Value := do
  let u ← receiver c
  let n ← toLength (c.arg 0)
  if n ≤ u.size then text u
  else
    let filler ← match c.arg 1 with
      | .undefined => pure (txt " ")
      | v => toText v
    if filler.isEmpty then text u
    else
      weigh n
      let count := n - u.size
      let padding := (Units.rep filler (count / filler.size + 1) #[]).extract 0 count
      text (if atStart then padding ++ u else u ++ padding)

def rep (c : Call) : M Value := do
  let u ← receiver c
  let x ← toInteger (c.arg 0)
  if x < 0.0 || x > 2147483647.0 then rangeError "invalid repeat count"
  let n := x.toUInt64.toNat
  if u.isEmpty then text u
  else
    weigh (n * u.size)
    text (Units.rep u n #[])

/-- A text with marks in it that stand for parts of a match. -/
structure Filling where
  subject : Units
  matched : Units
  start : Nat
  groups : List Value
  names : Value

def isDigit (w : UInt16) : Bool := 48 ≤ w && w ≤ 57

/-- The group that digits behind a dollar sign name, and how many digits that takes. -/
def groupAt? (f : Filling) (t : Units) (i : Nat) : Option (Value × Nat) :=
  let digit := fun j => (t[j]?).bind fun w => if isDigit w then some (w.toNat - 48) else none
  let pick := fun (n width : Nat) => if 1 ≤ n then (f.groups[n - 1]?).map fun g => (g, width) else none
  match digit i, digit (i + 1) with
  | some a, some b => (pick (10 * a + b) 2) <|> (pick a 1)
  | some a, none => pick a 1
  | none, _ => none

def fill (f : Filling) (t : Units) : Nat → Nat → Units → M Units
  | 0, _, acc => return acc
  | n + 1, i, acc => do
    match t[i]? with
    | none => return acc
    | some 36 =>
      match (t[i + 1]?).map fun w => Units.charOf w.toNat with
      | some '$' => fill f t n (i + 2) (acc.push 36)
      | some '&' => fill f t n (i + 2) (acc ++ f.matched)
      | some '\x60' => fill f t n (i + 2) (acc ++ f.subject.extract 0 f.start)
      | some '\x27' => fill f t n (i + 2) (acc ++ f.subject.extract (f.start + f.matched.size) f.subject.size)
      | some '<' =>
        match f.names, t.find? (txt ">") (i + 2) with
        | .undefined, _ | _, none => fill f t n (i + 1) (acc.push 36)
        | names, some j =>
          match ← getMember names (.name (t.extract (i + 2) j)) with
          | .undefined => fill f t n (j + 1) acc
          | v => fill f t n (j + 1) (acc ++ (← toText v))
      | _ =>
        match groupAt? f t (i + 1) with
        | some (g, width) =>
          let u ← match g with
            | .undefined => pure #[]
            | g => toText g
          fill f t n (i + 1 + width) (acc ++ u)
        | none => fill f t n (i + 1) (acc.push 36)
    | some w => fill f t n (i + 1) (acc.push w)

def filled (f : Filling) (t : Units) : M Units := fill f t (t.size + 1) 0 #[]

/-- The method of a pattern for one of the operations that take a pattern. -/
def patternMethod? (v : Value) (s : KnownSymbol) : M (Option Value) := do
  match v with
  | .object _ => method? v s.key
  | _ => return none

def needGlobal (v : Value) : M Unit := do
  match ← search? v with
  | none => return ()
  | some _ =>
    let flags ← toText (← getNamed v "flags")
    if !flags.contains 103 then typeError "regexp must have the 'g' flag"

/-- All places where `pat` stands, one behind the other. -/
def places (u pat : Units) (all : Bool) : Nat → Nat → List Nat
  | 0, _ => []
  | n + 1, start =>
    match u.find? pat start with
    | none => []
    | some i => i :: if all then places u pat all n (i + max 1 pat.size) else []

def replace (all : Bool) (c : Call) : M Value := do
  if c.this.isNullish then typeError "null or undefined are forbidden"
  if all then needGlobal (c.arg 0)
  match ← patternMethod? (c.arg 0) .replace with
  | some f => call f (c.arg 0) [c.this, c.arg 1]
  | none =>
    let u ← receiver c
    let pat ← toText (c.arg 0)
    let byCall ← isCallable (c.arg 1)
    let template ← if byCall then pure #[] else toText (c.arg 1)
    let (acc, last) ← (places u pat all (u.size + 2) 0).foldlM (fun ((acc, last) : Units × Nat) i => do
      let new ←
        if byCall then toText (← call (c.arg 1) .undefined [.text pat, .ofNat i, .text u])
        else filled ⟨u, pat, i, [], .undefined⟩ template
      return (acc ++ u.extract last i ++ new, i + pat.size)) (#[], 0)
    text (acc ++ u.extract last u.size)

def search (c : Call) : M Value := do
  if c.this.isNullish then typeError "null or undefined are forbidden"
  match ← patternMethod? (c.arg 0) .search with
  | some f => call f (c.arg 0) [c.this]
  | none =>
    let u ← receiver c
    let source ← match c.arg 0 with
      | .undefined => pure #[]
      | v => toText v
    invoke (← newRegex source #[]) KnownSymbol.search.key [.text u]

def match_ (c : Call) : M Value := do
  if c.this.isNullish then typeError "null or undefined are forbidden"
  match ← patternMethod? (c.arg 0) .match with
  | some f => call f (c.arg 0) [c.this]
  | none =>
    let u ← receiver c
    let source ← match c.arg 0 with
      | .undefined => pure #[]
      | v => toText v
    invoke (← newRegex source #[]) KnownSymbol.match.key [.text u]

def matchAll (c : Call) : M Value := do
  if c.this.isNullish then typeError "null or undefined are forbidden"
  needGlobal (c.arg 0)
  match ← patternMethod? (c.arg 0) .matchAll with
  | some f => call f (c.arg 0) [c.this]
  | none =>
    let u ← receiver c
    let source ← match c.arg 0 with
      | .undefined => pure #[]
      | v => toText v
    invoke (← newRegex source (txt "g")) KnownSymbol.matchAll.key [.text u]

def slice (c : Call) : M Value := do
  let u ← receiver c
  let lo ← toPlace (c.arg 0) u.size 0
  let hi ← toPlace (c.arg 1) u.size u.size
  text (u.extract lo hi)

def substr (c : Call) : M Value := do
  let u ← receiver c
  let lo ← toPlace (c.arg 0) u.size 0
  let n ← toClamped (c.arg 1) (u.size - lo) (u.size - lo)
  text (u.extract lo (lo + n))

def substring (c : Call) : M Value := do
  let u ← receiver c
  let a ← toClamped (c.arg 0) u.size 0
  let b ← toClamped (c.arg 1) u.size u.size
  text (u.extract (min a b) (max a b))

/-- The pieces between the places where `pat` stands. -/
def pieces (u pat : Units) : List Units :=
  if pat.isEmpty then u.toList.map fun w => #[w]
  else
    let (acc, last) := (places u pat true (u.size + 2) 0).foldl
      (fun (acc, last) i => (u.extract last i :: acc, i + pat.size)) (([] : List Units), 0)
    (u.extract last u.size :: acc).reverse

def split (c : Call) : M Value := do
  if c.this.isNullish then typeError "null or undefined are forbidden"
  match ← patternMethod? (c.arg 0) .split with
  | some f => call f (c.arg 0) [c.this, c.arg 1]
  | none =>
    let u ← receiver c
    let limit ← match c.arg 1 with
      | .undefined => pure 4294967295
      | v => toUint32 v
    let pat ← toText (c.arg 0)
    if limit == 0 then newList []
    else
      match c.arg 0 with
      | .undefined => newList [.text u]
      | _ => newList (((pieces u pat).take limit).map Value.text)

/-- Points mapped one by one; a surrogate without its partner stays. -/
def mapPoints (f : Char → List Char) (u : Units) : Units :=
  Units.ofPoints (u.points.flatMap fun n => if n.isValidChar then (f (Char.ofNat n)).map Char.toNat else [n])

def upper (c : Call) : M Value := do
  text (mapPoints Text.upperOf (← receiver c))

def lower (c : Call) : M Value := do
  let u ← receiver c
  let ns := u.points
  if ns.all Nat.isValidChar then text (Units.ofChars (Text.toLowerCharsFrom [] (ns.map Char.ofNat)))
  else text (mapPoints Text.lowerOf u)

def isWellFormed (u : Units) : Bool := u.points.all Nat.isValidChar

def toWellFormed (u : Units) : Units := Units.ofPoints (u.points.map fun n => if n.isValidChar then n else 0xfffd)

def iterator (c : Call) : M Value := do
  let u ← receiver c
  return .object (← newPlain (.fixture .textWalk) (.walk (.text u 0)))

/-- The text as the content of an element. -/
def element (tag attr : String) (c : Call) : M Value := do
  let u ← receiver c
  let head ← if attr.isEmpty then pure (txt tag)
    else do
      let v ← toText (c.arg 0)
      let quoted := v.toList.flatMap fun w => if w == 34 then (txt "&quot;").toList else [w]
      pure (txt (tag ++ " " ++ attr ++ "=\"") ++ quoted.toArray ++ txt "\"")
  text (txt "<" ++ head ++ txt ">" ++ u ++ txt s!"</{tag}>")

def rows : List Native :=
  [.maker .text 1 make, .method maker "fromCharCode" 1 fromCharCode, .method maker "fromCodePoint" 1 fromCodePoint,
    .method maker "raw" 1 raw, .method proto "at" 1 at_, .method proto "charCodeAt" 1 charCodeAt,
    .method proto "charAt" 1 charAt, .method proto "concat" 1 concat, .method proto "codePointAt" 1 codePointAt,
    .method proto "isWellFormed" 0 (fun c => do boolean (isWellFormed (← receiver c))),
    .method proto "toWellFormed" 0 (fun c => do text (toWellFormed (← receiver c))),
    .method proto "indexOf" 1 indexOf, .method proto "lastIndexOf" 1 lastIndexOf,
    .method proto "includes" 1 includes, .method proto "endsWith" 1 endsWith,
    .method proto "startsWith" 1 startsWith, .method proto "match" 1 match_, .method proto "matchAll" 1 matchAll,
    .method proto "search" 1 search, .method proto "split" 2 split, .method proto "substring" 2 substring,
    .method proto "substr" 2 substr, .method proto "slice" 2 slice, .method proto "repeat" 1 rep,
    .method proto "replace" 2 (replace false), .method proto "replaceAll" 2 (replace true),
    .method proto "padEnd" 1 (pad false), .method proto "padStart" 1 (pad true),
    .method proto "trim" 0 (fun c => do text (← receiver c).trimStart.trimEnd),
    .method proto "trimEnd" 0 (fun c => do text (← receiver c).trimEnd),
    .method proto "trimRight" 0 (fun c => do text (← receiver c).trimEnd),
    .method proto "trimStart" 0 (fun c => do text (← receiver c).trimStart),
    .method proto "trimLeft" 0 (fun c => do text (← receiver c).trimStart),
    .method proto "toString" 0 (fun c => do text (← thisText c)),
    .method proto "valueOf" 0 (fun c => do text (← thisText c)), .method proto "toLowerCase" 0 lower,
    .method proto "toUpperCase" 0 upper, .method proto "toLocaleLowerCase" 0 lower,
    .method proto "toLocaleUpperCase" 0 upper, .method proto "localeCompare" 1 localeCompare,
    .method proto "normalize" 0 normalize, .symbolMethod proto .iterator 0 iterator] ++
  [("anchor", "a", "name"), ("big", "big", ""), ("blink", "blink", ""), ("bold", "b", ""), ("fixed", "tt", ""),
    ("fontcolor", "font", "color"), ("fontsize", "font", "size"), ("italics", "i", ""), ("link", "a", "href"),
    ("small", "small", ""), ("strike", "strike", ""), ("sub", "sub", ""), ("sup", "sup", "")].map
    fun (name, tag, attr) => .method proto name (if attr.isEmpty then 0 else 1) (element tag attr)

end ApiStencil.Script.Library.Texts
