import ApiStencil.Regex.Pattern
import ApiStencil.Script.Units
/-!
The notation of patterns in scripts. Classes are those of ASCII; a pattern may look around itself and
refer back to its groups. Without the `u` flag it is read leniently, over code units.
-/
set_option autoImplicit false

namespace ApiStencil.Script
namespace SearchPattern

open Regex (CharSet Node)

structure Flags where
  fold : Bool
  lines : Bool
  dotAll : Bool
  unicode : Bool

/-- What is known of a pattern before it is read. -/
structure Survey where
  flags : Flags
  groups : Nat
  names : List (String × Nat)

structure State where
  rest : List Nat
  /-- The number of the next group. -/
  next : Nat

end SearchPattern

abbrev SearchPatternReader := ReaderT SearchPattern.Survey (StateT SearchPattern.State Option)

namespace SearchPattern

open Regex (CharSet Node)

def flagsOf? (u : Units) : Option Flags :=
  let cs := u.toText.toList
  if cs.all (fun c => "dgimsuvy".toList.contains c) && cs.eraseDups.length == cs.length &&
      !(cs.contains 'u' && cs.contains 'v') then
    some ⟨cs.contains 'i', cs.contains 'm', cs.contains 's', cs.contains 'u' || cs.contains 'v'⟩
  else none

def symbol (c : Char) : Nat := c.toNat

/-- The name up to the closing angle bracket, and what follows it. -/
def groupName? (ns : List Nat) : Option (String × List Nat) :=
  let name := (ns.takeWhile (· != symbol '>')).map Units.charOf
  match ns.dropWhile (· != symbol '>'), name with
  | _ :: rest, c :: cs =>
    let starts := fun c => c == '$' || c == '_' || Text.isIdentifierStart c
    let goesOn := fun c => starts c || c == '\u200c' || c == '\u200d' || Text.isIdentifierPart c
    if starts c && cs.all goesOn then some (String.ofList name, rest) else none
  | _, _ => none

/-- The names of the groups in the order of their brackets. -/
def groupsIn : Nat → Bool → List Nat → List (Option String)
  | 0, _, _ => []
  | _, _, [] => []
  | n + 1, inClass, c :: rest =>
    if c == symbol '\\' then groupsIn n inClass (rest.drop 1)
    else if inClass then groupsIn n (c != symbol ']') rest
    else if c == symbol '[' then groupsIn n true rest
    else if c == symbol '(' then
      match rest.map Units.charOf with
      | '?' :: '<' :: '=' :: _ | '?' :: '<' :: '!' :: _ => groupsIn n false rest
      | '?' :: '<' :: _ => ((groupName? (rest.drop 2)).map (·.1)) :: groupsIn n false rest
      | '?' :: _ => groupsIn n false rest
      | _ => none :: groupsIn n false rest
    else groupsIn n false rest

def namesOf (groups : List (Option String)) : List (String × Nat) :=
  groups.zipIdx.filterMap fun (name, i) => name.map fun s => (s, i + 1)

def peek : SearchPatternReader (Option Nat) := do
  return (← get).rest.head?

def skip (n : Nat) : SearchPatternReader Unit := modify fun s => { s with rest := s.rest.drop n }

def setRest (rest : List Nat) : SearchPatternReader Unit := modify fun s => { s with rest }

def isNext (t : String) : SearchPatternReader Bool := do
  return (t.toList.map symbol).isPrefixOf (← get).rest

def eat (t : String) : SearchPatternReader Bool := do
  if ← isNext t then
    skip t.length
    return true
  else return false

def isDigit (n : Nat) : Bool := 48 ≤ n && n ≤ 57

def decimal? (ns : List Nat) : Option Nat := Decimal.ofBase? 10 (ns.map Units.charOf)

/-- Least and most rounds between braces, if that is what follows. -/
def counts? (ns : List Nat) : Option (Nat × Option Nat × List Nat) := do
  let least ← decimal? (ns.takeWhile isDigit)
  match ns.dropWhile isDigit with
  | c :: rest =>
    if c == symbol '\x7d' then return (least, some least, rest)
    else if c == symbol ',' then
      let digits := rest.takeWhile isDigit
      match rest.dropWhile isDigit with
      | d :: rest =>
        guard (d == symbol '\x7d')
        if digits.isEmpty then return (least, none, rest) else return (least, ← decimal? digits, rest)
      | [] => failure
    else failure
  | [] => failure

/-- How often the piece before is to be matched, if something here says so. -/
def rounds? : SearchPatternReader (Option (Nat × Option Nat)) := do
  if ← eat "*" then return some (0, none)
  if ← eat "+" then return some (1, none)
  if ← eat "?" then return some (0, some 1)
  if ← isNext "\x7b" then
    match counts? ((← get).rest.drop 1) with
    | some (least, most, rest) =>
      setRest rest
      guard (most.all (least ≤ ·))
      return some (least, most)
    | none =>
      guard (!(← read).flags.unicode)
      return none
  return none

/-- A piece with the number of its rounds. -/
def repeated (piece : Node) : SearchPatternReader Node := do
  match ← rounds? with
  | none => return piece
  | some (least, most) =>
    let lazy ← eat "?"
    return .rep piece least most (!lazy)

def digitSet : CharSet := .span 48 57

def wordSet : CharSet := .spans [(48, 57), (65, 90), (95, 95), (97, 122)]

def blankSet : CharSet :=
  .spans [(9, 13), (32, 32), (0xa0, 0xa0), (0x1680, 0x1680), (0x2000, 0x200a), (0x2028, 0x2029), (0x202f, 0x202f),
    (0x205f, 0x205f), (0x3000, 0x3000), (0xfeff, 0xfeff)]

def lineEndSet : CharSet := .spans [(10, 10), (13, 13), (0x2028, 0x2029)]

/-- What an escape stands for. -/
inductive Escape where
  | symbol (n : Nat)
  | set (s : CharSet)

def hexAt? (width : Nat) (ns : List Nat) : Option Nat :=
  if ns.length < width then none else Decimal.ofBase? 16 ((ns.take width).map Units.charOf)

/-- Four digits, or a number in braces; two halves of a pair are one symbol. -/
def unicodeEscape? (unicode : Bool) (ns : List Nat) : Option (Nat × List Nat) :=
  match ns with
  | c :: rest =>
    if unicode && c == symbol '\x7b' then
      match rest.dropWhile (· != symbol '\x7d') with
      | [] => none
      | _ :: after => do
        let n ← Decimal.ofBase? 16 ((rest.takeWhile (· != symbol '\x7d')).map Units.charOf)
        guard (n < 0x110000)
        return (n, after)
    else do
      let n ← hexAt? 4 ns
      let after := ns.drop 4
      let low := match after.map Units.charOf with
        | '\\' :: 'u' :: _ => hexAt? 4 (after.drop 2)
        | _ => none
      match low with
      | some m =>
        if unicode && Units.isHigh n.toUInt16 && Units.isLow m.toUInt16 then
          return (Units.joined n.toUInt16 m.toUInt16, after.drop 6)
        else return (n, after)
      | none => return (n, after)
  | [] => none

/-- Up to three octal digits with a value below 256. -/
def octal (ns : List Nat) : Nat × List Nat :=
  let isOctal := fun n => 48 ≤ n && n ≤ 55
  let digits := ns.takeWhile isOctal
  let width := if digits.length ≥ 3 && digits.head?.all (· ≤ 51) then 3 else min 2 digits.length
  ((digits.take width).foldl (fun acc d => 8 * acc + (d - 48)) 0, ns.drop width)

def propertyEscape (negated : Bool) : SearchPatternReader CharSet := do
  guard (← eat "\x7b")
  let name := (← get).rest.takeWhile (· != symbol '\x7d')
  setRest ((← get).rest.drop name.length)
  guard (← eat "\x7d")
  match Regex.Pending.propertyOf? (String.ofList (name.map Units.charOf)) with
  | some s => return if negated then .negate s else s
  | none => failure

/-- An escape behind its backslash, other than a reference to a group. -/
def escape (inClass : Bool) : SearchPatternReader Escape := do
  let unicode := (← read).flags.unicode
  match (← get).rest with
  | [] => failure
  | n :: rest =>
    let take := fun (e : Escape) => do
      setRest rest
      return e
    match Units.charOf n with
    | 'd' => take (.set digitSet)
    | 'D' => take (.set (.negate digitSet))
    | 'w' => take (.set wordSet)
    | 'W' => take (.set (.negate wordSet))
    | 's' => take (.set blankSet)
    | 'S' => take (.set (.negate blankSet))
    | 't' => take (.symbol 9)
    | 'n' => take (.symbol 10)
    | 'v' => take (.symbol 11)
    | 'f' => take (.symbol 12)
    | 'r' => take (.symbol 13)
    | 'c' =>
      match rest with
      | l :: after =>
        let c := Units.charOf l
        if c.isAlpha || (inClass && !unicode && (c.isDigit || c == '_')) then
          setRest after
          return .symbol (l % 32)
        else
          guard (!unicode)
          return .symbol (symbol '\\')
      | [] =>
        guard (!unicode)
        return .symbol (symbol '\\')
    | 'x' =>
      match hexAt? 2 rest with
      | some m =>
        setRest (rest.drop 2)
        return .symbol m
      | none =>
        guard (!unicode)
        take (.symbol n)
    | 'u' =>
      match unicodeEscape? unicode rest with
      | some (m, after) =>
        setRest after
        return .symbol m
      | none =>
        guard (!unicode)
        take (.symbol n)
    | 'p' | 'P' =>
      if unicode then
        setRest rest
        return .set (← propertyEscape (n == symbol 'P'))
      else take (.symbol n)
    | c =>
      if isDigit n then
        if unicode then
          guard (n == 48 && !(rest.head?.any isDigit))
          take (.symbol 0)
        else if n ≥ 56 then take (.symbol n)
        else
          let (m, after) := octal (n :: rest)
          setRest after
          return .symbol m
      else
        guard (!unicode || "^$\\.*+?()[]\x7b\x7d|/".toList.contains c || (inClass && c == '-'))
        guard (c != 'k' || inClass || (← read).names.isEmpty)
        take (.symbol n)

/-- A member of a class. -/
def classMember : SearchPatternReader Escape := do
  if ← eat "\\" then
    if ← eat "b" then return .symbol 8
    escape true
  else
    match (← get).rest with
    | [] => failure
    | n :: rest =>
      setRest rest
      return .symbol n

def Escape.toSet : Escape → CharSet
  | .symbol n => .span n n
  | .set s => s

/-- The members of a class up to its closing bracket. -/
def classMembers : Nat → CharSet → SearchPatternReader CharSet
  | 0, _ => failure
  | n + 1, acc => do
    if ← eat "]" then return acc
    let first ← classMember
    if (← isNext "-") && !(← isNext "-]") then
      skip 1
      let last ← classMember
      match first, last with
      | .symbol lo, .symbol hi =>
        guard (lo ≤ hi)
        classMembers n (.union acc (.span lo hi))
      | _, _ =>
        guard (!(← read).flags.unicode)
        classMembers n (.union (.union acc first.toSet) (.union (.span 45 45) last.toSet))
    else classMembers n (.union acc first.toSet)

def ofSet (s : CharSet) : SearchPatternReader Node := do
  return .set s (← read).flags.fold

/-- A reference to a group by its number, if it is one. -/
def numbered? : SearchPatternReader (Option Node) := do
  let rest := (← get).rest
  match rest with
  | n :: _ =>
    if 49 ≤ n && n ≤ 57 then
      let digits := rest.takeWhile isDigit
      match decimal? digits with
      | some i =>
        if i ≤ (← read).groups then
          skip digits.length
          return some (.back i (← read).flags.fold)
        else
          guard (!(← read).flags.unicode)
          return none
      | none => return none
    else return none
  | [] => return none

/-- A piece that begins with a backslash. -/
def escapedPiece : SearchPatternReader Node := do
  let k ← read
  if ← eat "b" then return .place .wordEdge
  if ← eat "B" then return .place .notWordEdge
  match ← numbered? with
  | some piece => return piece
  | none =>
    if (k.flags.unicode || !k.names.isEmpty) && (← eat "k") then
      guard (← eat "<")
      let (name, rest) ← groupName? (← get).rest
      setRest rest
      return .back (← k.names.lookup name) k.flags.fold
    ofSet (← escape false).toSet

def newGroup : SearchPatternReader Nat := do
  let s ← get
  set { s with next := s.next + 1 }
  return s.next

/-- A piece with what says how often it is matched; `alternatives` reads what stands in brackets. -/
def term (alternatives : SearchPatternReader Node) : SearchPatternReader Node := do
  let k ← read
  let closed : SearchPatternReader Node := do
    let body ← alternatives
    guard (← eat ")")
    return body
  if ← eat "^" then return .place (if k.flags.lines then .lineStart else .textStart)
  if ← eat "$" then return .place (if k.flags.lines then .lineEnd else .textEnd)
  if ← eat "(?=" then
    let piece := Node.look true false (← closed)
    if k.flags.unicode then return piece else repeated piece
  else if ← eat "(?!" then
    let piece := Node.look true true (← closed)
    if k.flags.unicode then return piece else repeated piece
  else if ← eat "(?<=" then return .look false false (← closed)
  else if ← eat "(?<!" then return .look false true (← closed)
  else if ← eat "(?:" then repeated (← closed)
  else if ← eat "(?<" then
    let (_, rest) ← groupName? (← get).rest
    setRest rest
    let i ← newGroup
    repeated (.group i (← closed))
  else if ← isNext "(?" then failure
  else if ← eat "(" then
    let i ← newGroup
    repeated (.group i (← closed))
  else if ← eat "." then
    repeated (← if k.flags.dotAll then pure (.set (.negate .none) false) else pure (.set (.negate lineEndSet) false))
  else if ← eat "[" then
    let negated ← eat "^"
    let members ← classMembers ((← get).rest.length + 1) .none
    repeated (← ofSet (if negated then .negate members else members))
  else if ← eat "\\" then
    let piece ← escapedPiece
    match piece with
    | .place _ => return piece
    | _ => repeated piece
  else
    match (← get).rest with
    | [] => failure
    | n :: rest =>
      let c := Units.charOf n
      guard (!"*+?)".toList.contains c)
      if c == '\x7b' then guard (!k.flags.unicode && (counts? rest).isNone)
      if c == '\x7d' || c == ']' then guard (!k.flags.unicode)
      setRest rest
      repeated (← ofSet (.span n n))

/-- Pieces in a row. -/
def row (alternatives : SearchPatternReader Node) : Nat → SearchPatternReader Node
  | 0 => failure
  | n + 1 => do
    match ← peek with
    | none => return .empty
    | some c =>
      if c == symbol '|' || c == symbol ')' then return .empty
      let first ← term alternatives
      return .seq first (← row alternatives n)

def choices (alternatives : SearchPatternReader Node) (n : Nat) : Nat → SearchPatternReader Node
  | 0 => failure
  | m + 1 => do
    let first ← row alternatives n
    if ← eat "|" then return .alt first (← choices alternatives n m) else return first

/-- Alternatives, with at most `depth` brackets around each other. -/
def alternatives (n : Nat) : Nat → SearchPatternReader Node
  | 0 => failure
  | depth + 1 => choices (alternatives n depth) n n

/-- The symbols that a text consists of. -/
def symbols (unicode : Bool) (u : Units) : List Nat :=
  if unicode then u.points else u.toList.map UInt16.toNat

def isWordSymbol (n : Nat) : Bool := wordSet.holds n

end SearchPattern

/-- The pattern that a source and flags stand for, or nothing for what is no pattern. -/
def searchPattern? (source flags : Units) : Option Regex := do
  let flags ← SearchPattern.flagsOf? flags
  let ns := SearchPattern.symbols flags.unicode source
  let n := ns.length + 1
  let groups := SearchPattern.groupsIn n false ns
  let names := SearchPattern.namesOf groups
  guard ((names.map (·.1)).eraseDups.length == names.length)
  let survey : SearchPattern.Survey := ⟨flags, groups.length, names⟩
  let (root, s) ← ((SearchPattern.alternatives n n).run survey).run ⟨ns, 1⟩
  guard s.rest.isEmpty
  return ⟨root, groups.length, names, ⟨SearchPattern.isWordSymbol, Units.isLineEnd, true, true⟩⟩

end ApiStencil.Script
