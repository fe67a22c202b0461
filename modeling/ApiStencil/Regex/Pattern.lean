import ApiStencil.Decimal.Read
import ApiStencil.Regex.Matcher
import ApiStencil.Text.Trim
/-!
The notation of patterns that templates search and replace with. Classes follow the Unicode standard;
there is no looking around and no referring back.
-/
set_option autoImplicit false

namespace ApiStencil
namespace Regex

inductive PatternFault where
  | unclosedGroup
  | unopenedGroup
  | unclosedClass
  | invalidRange
  | invalidClassEscape
  | nothingToRepeat
  | unclosedCount
  | emptyCount
  | invalidCount
  | unfinishedEscape
  | unknownEscape
  | noBackReference
  | invalidHex
  | unknownProperty
  | noLookAround
  | invalidName
  | repeatedName
  | invalidFlag
  | tooNested
  deriving DecidableEq

def PatternFault.message : PatternFault → String
  | .unclosedGroup => "unclosed group"
  | .unopenedGroup => "unopened group"
  | .unclosedClass => "unclosed character class"
  | .invalidRange => "invalid character class range, the start must be <= the end"
  | .invalidClassEscape => "invalid escape sequence found in character class"
  | .nothingToRepeat => "repetition operator missing expression"
  | .unclosedCount => "unclosed counted repetition"
  | .emptyCount => "repetition quantifier expects a valid decimal"
  | .invalidCount => "invalid repetition count range, the start must be <= the end"
  | .unfinishedEscape => "incomplete escape sequence, reached end of pattern prematurely"
  | .unknownEscape => "unrecognized escape sequence"
  | .noBackReference => "backreferences are not supported"
  | .invalidHex => "invalid hexadecimal digit"
  | .unknownProperty => "Unicode property not found"
  | .noLookAround => "look-around, including look-ahead and look-behind, is not supported"
  | .invalidName => "invalid capture group character"
  | .repeatedName => "duplicate capture group name"
  | .invalidFlag => "unrecognized flag"
  | .tooNested => "exceeded the maximum number of nested parentheses/brackets"

structure Flags where
  fold : Bool
  lines : Bool
  dotAll : Bool
  swapGreed : Bool
  spaced : Bool
  unicode : Bool
  returns : Bool

def Flags.none : Flags := ⟨false, false, false, false, false, true, false⟩

/-- What is left of the pattern, and what has been seen so far. -/
structure Pending where
  rest : List Char
  flags : Flags
  count : Nat
  names : List (String × Nat)

abbrev PendingStep (α : Type) := Except PatternFault (α × Pending)

namespace Pending

def skipSpaces : Nat → List Char → List Char
  | 0, cs => cs
  | _ + 1, [] => []
  | fuel + 1, c :: rest =>
    if Text.isBlank c then skipSpaces fuel rest
    else if c == '#' then skipSpaces fuel (rest.dropWhile (· != '\n'))
    else c :: rest

/-- In a spaced pattern blanks and comments stand between the pieces. -/
def skip (p : Pending) : Pending :=
  if p.flags.spaced then { p with rest := skipSpaces p.rest.length p.rest } else p

def withRest (p : Pending) (rest : List Char) : Pending := { p with rest }

def asciiDigit : CharSet := .span 48 57

def asciiWord : CharSet := .spans [(48, 57), (65, 90), (95, 95), (97, 122)]

def asciiBlank : CharSet := .spans [(9, 13), (32, 32)]

/-- The class of an escape letter, if it names one. -/
def classOf? (unicode : Bool) (c : Char) : Option CharSet :=
  match c with
  | 'd' => some (if unicode then .property .digit else asciiDigit)
  | 's' => some (if unicode then .property .blank else asciiBlank)
  | 'w' => some (if unicode then .property .word else asciiWord)
  | 'D' => some (.negate (if unicode then .property .digit else asciiDigit))
  | 'S' => some (.negate (if unicode then .property .blank else asciiBlank))
  | 'W' => some (.negate (if unicode then .property .word else asciiWord))
  | _ => Option.none

def anySymbol : CharSet := .negate .none

/-- The property of a name; case, blanks, hyphens and underscores in it do not count. -/
def propertyOf? (name : String) : Option CharSet :=
  let kept := (name.toList.filter fun c => c != ' ' && c != '_' && c != '-').map Char.toLower
  let value := match kept.dropWhile (· != '=') with
    | '=' :: rest => rest
    | _ => kept
  match String.ofList value with
  | "l" | "letter" => some (.property .letter)
  | "lu" | "uppercaseletter" => some (.inter (.property .upper) (.property .letter))
  | "ll" | "lowercaseletter" => some (.inter (.property .lower) (.property .letter))
  | "uppercase" | "upper" => some (.property .upper)
  | "lowercase" | "lower" => some (.property .lower)
  | "alphabetic" | "alpha" => some (.property .alphabetic)
  | "m" | "mark" | "combiningmark" => some (.property .mark)
  | "n" | "number" => some (.property .number)
  | "nd" | "decimalnumber" | "digit" => some (.property .digit)
  | "p" | "punctuation" | "punct" => some (.property .punctuation)
  | "s" | "symbol" => some (.property .symbol)
  | "cc" | "control" | "cntrl" => some (.property .control)
  | "whitespace" | "space" => some (.property .blank)
  | "greek" | "grek" => some (.property .greek)
  | "cyrillic" | "cyrl" => some (.property .cyrillic)
  | "latin" | "latn" => some (.property .latin)
  | "han" | "hani" => some (.property .han)
  | "hiragana" | "hira" => some (.property .hiragana)
  | "katakana" | "kana" => some (.property .katakana)
  | "any" => some anySymbol
  | "ascii" => some (.span 0 127)
  | "idstart" => some (.property .identifierStart)
  | "idcontinue" => some (.property .identifierPart)
  | _ => Option.none

/-- The property whose `p` or `P` has been read. -/
def property (negated : Bool) (p : Pending) : PendingStep CharSet :=
  let finish := fun (name : List Char) (rest : List Char) =>
    let (flip, name) := match name with
      | '^' :: name => (true, name)
      | name => (false, name)
    match propertyOf? (String.ofList name) with
    | some s => .ok (if negated != flip then .negate s else s, p.withRest rest)
    | Option.none => .error .unknownProperty
  match p.rest with
  | [] => .error .unfinishedEscape
  | '\x7b' :: rest =>
    match rest.dropWhile (· != '\x7d') with
    | [] => .error .unfinishedEscape
    | _ :: after => finish (rest.takeWhile (· != '\x7d')) after
  | c :: rest => finish [c] rest

/-- A code point in hexadecimal: in braces, or `width` digits. -/
def hex (width : Nat) (p : Pending) : PendingStep Char :=
  let finish := fun (ds rest : List Char) =>
    match Decimal.ofBase? 16 ds with
    | some n => if n.isValidChar then .ok (Char.ofNat n, p.withRest rest) else .error .invalidHex
    | Option.none => .error .invalidHex
  match p.rest with
  | '\x7b' :: rest =>
    match rest.dropWhile (· != '\x7d') with
    | [] => .error .unfinishedEscape
    | _ :: after => finish (rest.takeWhile (· != '\x7d')) after
  | rest => if rest.length < width then .error .unfinishedEscape else finish (rest.take width) (rest.drop width)

/-- What an escape stands for. -/
inductive Escape where
  | char (c : Char)
  | members (s : CharSet)
  | place (p : Place)

def wordPlaces : List (String × Place) :=
  [("\x7bstart\x7d", .wordStart), ("\x7bend\x7d", .wordEnd), ("\x7bstart-half\x7d", .afterNonWord),
    ("\x7bend-half\x7d", .beforeNonWord)]

def wordEdge (p : Pending) : Escape × Pending :=
  match wordPlaces.findSome? fun (text, place) =>
      (Text.dropText? text.toList p.rest).map fun rest => (place, rest) with
  | some (place, rest) => (.place place, p.withRest rest)
  | Option.none => (.place .wordEdge, p)

/-- The escape whose backslash has been read. -/
def escape (p : Pending) : PendingStep Escape :=
  match p.rest with
  | [] => .error .unfinishedEscape
  | c :: rest =>
    let p := p.withRest rest
    let char := fun c : Char => (.ok (.char c, p) : PendingStep Escape)
    match c with
    | 'p' => (property false p).map fun (s, p) => (.members s, p)
    | 'P' => (property true p).map fun (s, p) => (.members s, p)
    | 'x' => (hex 2 p).map fun (c, p) => (.char c, p)
    | 'u' => (hex 4 p).map fun (c, p) => (.char c, p)
    | 'U' => (hex 8 p).map fun (c, p) => (.char c, p)
    | 'a' => char '\x07'
    | 'f' => char '\x0c'
    | 't' => char '\t'
    | 'n' => char '\n'
    | 'r' => char '\r'
    | 'v' => char '\x0b'
    | 'A' => .ok (.place .textStart, p)
    | 'z' => .ok (.place .textEnd, p)
    | 'b' => .ok (wordEdge p)
    | 'B' => .ok (.place .notWordEdge, p)
    | '<' => .ok (.place .wordStart, p)
    | '>' => .ok (.place .wordEnd, p)
    | c =>
      match classOf? p.flags.unicode c with
      | some s => .ok (.members s, p)
      | Option.none =>
        if c.isDigit then .error .noBackReference
        else if c.toNat < 128 && !c.isAlpha then char c
        else .error .unknownEscape

def namedClasses : List (String × CharSet) :=
  [("alnum", .spans [(48, 57), (65, 90), (97, 122)]), ("alpha", .spans [(65, 90), (97, 122)]),
    ("ascii", .span 0 127), ("blank", .spans [(9, 9), (32, 32)]), ("cntrl", .spans [(0, 31), (127, 127)]),
    ("digit", asciiDigit), ("graph", .span 33 126), ("lower", .span 97 122), ("print", .span 32 126),
    ("punct", .spans [(33, 47), (58, 64), (91, 96), (123, 126)]), ("space", asciiBlank),
    ("upper", .span 65 90), ("word", asciiWord), ("xdigit", .spans [(48, 57), (65, 70), (97, 102)])]

/-- A class such as `[:alpha:]` whose bracket has been read. -/
def namedClass? (rest : List Char) : Option (CharSet × List Char) :=
  match rest with
  | ':' :: rest =>
    let (flip, rest) := match rest with
      | '^' :: rest => (true, rest)
      | rest => (false, rest)
    namedClasses.findSome? fun (name, s) =>
      (Text.dropText? (name ++ ":]").toList rest).map fun rest => (if flip then .negate s else s, rest)
  | _ => Option.none

/-- One end of a range, or a class of its own. -/
def member (p : Pending) : PendingStep Escape :=
  match p.rest with
  | [] => .error .unclosedClass
  | '\\' :: rest =>
    match escape (p.withRest rest) with
    | .error e => .error e
    | .ok (.place _, _) => .error .invalidClassEscape
    | .ok r => .ok r
  | c :: rest => .ok (.char c, p.withRest rest)

inductive SetOperator where
  | inter
  | minus
  | differ

def SetOperator.apply (op : SetOperator) (a b : CharSet) : CharSet :=
  match op with
  | .inter => .inter a b
  | .minus => .inter a (.negate b)
  | .differ => .union (.inter a (.negate b)) (.inter b (.negate a))

def setOperator? : List Char → Option (SetOperator × List Char)
  | '&' :: '&' :: rest => some (.inter, rest)
  | '-' :: '-' :: rest => some (.minus, rest)
  | '~' :: '~' :: rest => some (.differ, rest)
  | _ => Option.none

/-- The set that the operators read so far leave to combine with. -/
def combine (left : Option (CharSet × SetOperator)) (s : CharSet) : CharSet :=
  match left with
  | some (a, op) => op.apply a s
  | Option.none => s

def openClass (rest : List Char) : Bool × CharSet × List Char :=
  let (negated, rest) := match rest with
    | '^' :: rest => (true, rest)
    | rest => (false, rest)
  -- hyphens in front and a bracket in front stand for themselves
  let (dashes, rest) := rest.span (· == '-')
  let s : CharSet := if dashes.isEmpty then .none else .char '-'
  match rest with
  | ']' :: after => if dashes.isEmpty then (negated, .union s (.char ']'), after) else (negated, s, rest)
  | _ => (negated, s, rest)

/-- What follows the hyphen of a range; a hyphen at the end or before another is not one. -/
def range? : List Char → Option (List Char)
  | '-' :: rest =>
    match rest with
    | ']' :: _ | '-' :: _ | [] => Option.none
    | _ => some rest
  | _ => Option.none

mutual

/-- A class whose opening bracket has been read. -/
def bracketed : Nat → Pending → PendingStep CharSet
  | 0, _ => .error .tooNested
  | fuel + 1, p =>
    let (negated, s, rest) := openClass (p.skip).rest
    match members fuel Option.none s (p.withRest rest) with
    | .error e => .error e
    | .ok (s, p) => .ok (if negated then .negate s else s, p)

def members : Nat → Option (CharSet × SetOperator) → CharSet → Pending → PendingStep CharSet
  | 0, _, _, _ => .error .tooNested
  | fuel + 1, left, acc, p =>
    let p := p.skip
    match p.rest with
    | [] => .error .unclosedClass
    | ']' :: rest => .ok (combine left acc, p.withRest rest)
    | '[' :: rest =>
      match namedClass? rest with
      | some (s, rest) => members fuel left (.union acc s) (p.withRest rest)
      | Option.none =>
        match bracketed fuel (p.withRest rest) with
        | .error e => .error e
        | .ok (s, p) => members fuel left (.union acc s) p
    | _ =>
      match setOperator? p.rest with
      | some (op, rest) => members fuel (some (combine left acc, op)) .none (p.withRest rest)
      | Option.none =>
        match member p with
        | .error e => .error e
        | .ok (lo, p) =>
          let p := p.skip
          match range? p.rest, lo with
          | some rest, .char a =>
            match member (p.withRest rest).skip with
            | .error e => .error e
            | .ok (.char b, p) =>
              if b < a then .error .invalidRange
              else members fuel left (.union acc (.span a.toNat b.toNat)) p
            | .ok _ => .error .invalidRange
          | some _, _ => .error .invalidRange
          | Option.none, .char a => members fuel left (.union acc (.char a)) p
          | Option.none, .members s => members fuel left (.union acc s) p
          | Option.none, .place _ => .error .invalidClassEscape

end

def setFlag (on : Bool) (f : Flags) : Char → Option Flags
  | 'i' => some { f with fold := on }
  | 'm' => some { f with lines := on }
  | 's' => some { f with dotAll := on }
  | 'U' => some { f with swapGreed := on }
  | 'u' => some { f with unicode := on }
  | 'x' => some { f with spaced := on }
  | 'R' => some { f with returns := on }
  | _ => Option.none

/-- Flags up to the colon or parenthesis, which is not read. -/
def readFlags (on seen : Bool) (used : List Char) (f : Flags) : List Char → Except PatternFault (Flags × List Char)
  | [] => .error .invalidFlag
  | c :: rest =>
    if c == ':' || c == ')' then
      if !on && !seen then .error .invalidFlag else .ok (f, c :: rest)
    else if c == '-' then if on then readFlags false false used f rest else .error .invalidFlag
    else if used.contains c then .error .invalidFlag
    else match setFlag on f c with
      | some f => readFlags on true (c :: used) f rest
      | Option.none => .error .invalidFlag

def isNameStart (c : Char) : Bool := c == '_' || Text.isAlphabetic c

def isNamePart (c : Char) : Bool :=
  isNameStart c || Text.isNumeric c || c == '.' || c == '[' || c == ']'

/-- The name of a group, up to and past its closing bracket. -/
def groupName (p : Pending) : PendingStep String :=
  let name := p.rest.takeWhile (· != '>')
  match name, p.rest.drop name.length with
  | c :: cs, _ :: rest =>
    let text := String.ofList (c :: cs)
    if !isNameStart c || !cs.all isNamePart then .error .invalidName
    else if p.names.any (·.1 == text) then .error .repeatedName
    else .ok (text, p.withRest rest)
  | _, _ => .error .invalidName

/-- What an opening parenthesis begins. -/
inductive Opening where
  | capture (index : Nat)
  | plain
  | directive

def capture (name : Option String) (p : Pending) : Opening × Pending :=
  let index := p.count + 1
  (.capture index,
    { p with count := index, names := match name with | some n => p.names ++ [(n, index)] | Option.none => p.names })

def named (p : Pending) : PendingStep Opening :=
  match groupName p with
  | .error e => .error e
  | .ok (name, p) => .ok (capture (some name) p)

/-- The opening whose parenthesis has been read. -/
def opening (p : Pending) : PendingStep Opening :=
  match p.rest with
  | '?' :: 'P' :: '<' :: rest => named (p.withRest rest)
  | '?' :: '=' :: _ | '?' :: '!' :: _ | '?' :: '<' :: '=' :: _ | '?' :: '<' :: '!' :: _ => .error .noLookAround
  | '?' :: '<' :: rest => named (p.withRest rest)
  | '?' :: ')' :: _ => .error .nothingToRepeat
  | '?' :: rest =>
    match readFlags true false [] p.flags rest with
    | .error e => .error e
    | .ok (f, ':' :: rest) => .ok (.plain, { p with rest, flags := f })
    | .ok (f, rest) => .ok (.directive, { p with rest := rest.drop 1, flags := f })
  | _ => .ok (capture Option.none p)

def number (p : Pending) : Option Nat × Pending :=
  let p := p.skip
  let (ds, rest) := Decimal.spanDigits p.rest
  (if ds.isEmpty then Option.none else some (Decimal.naturalOf ds), (p.withRest rest).skip)

/-- The bounds of a repetition whose opening brace has been read. -/
def bounds (p : Pending) : PendingStep (Nat × Option Nat) :=
  let (least, p) := number p
  match least, p.rest with
  | _, [] => .error .unclosedCount
  | Option.none, _ => .error .emptyCount
  | some n, '\x7d' :: rest => .ok ((n, some n), p.withRest rest)
  | some n, ',' :: rest =>
    let (most, p) := number (p.withRest rest)
    match most, p.rest with
    | _, [] => .error .unclosedCount
    | Option.none, '\x7d' :: rest => .ok ((n, Option.none), p.withRest rest)
    | some m, '\x7d' :: rest => if m < n then .error .invalidCount else .ok ((n, some m), p.withRest rest)
    | Option.none, _ => .error .emptyCount
    | some _, _ => .error .unclosedCount
  | some _, _ => .error .unclosedCount

def repetition? (p : Pending) : Option (PendingStep (Nat × Option Nat)) :=
  match p.rest with
  | '*' :: rest => some (.ok ((0, Option.none), p.withRest rest))
  | '+' :: rest => some (.ok ((1, Option.none), p.withRest rest))
  | '?' :: rest => some (.ok ((0, some 1), p.withRest rest))
  | '\x7b' :: rest => some (bounds (p.withRest rest))
  | _ => Option.none

/-- A node with all repetitions that follow it. -/
def repeated : Nat → Node → Pending → PendingStep Node
  | 0, _, _ => .error .tooNested
  | fuel + 1, node, p =>
    let p := p.skip
    match repetition? p with
    | Option.none => .ok (node, p)
    | some (.error e) => .error e
    | some (.ok ((least, most), p)) =>
      let (lazy, p) := match p.rest with
        | '?' :: rest => (true, p.withRest rest)
        | _ => (false, p)
      repeated fuel (.rep node least most (lazy == p.flags.swapGreed)) p

def lineBreaks (f : Flags) : CharSet :=
  if f.returns then .union (.char '\n') (.char '\r') else .char '\n'

def Escape.node (f : Flags) : Escape → Node
  | .char c => .set (.char c) f.fold
  | .members s => .set s f.fold
  | .place p => .place p

mutual

/-- Alternatives up to a closing parenthesis or the end, which is not read. -/
def alternatives : Nat → Pending → PendingStep Node
  | 0, _ => .error .tooNested
  | fuel + 1, p =>
    match sequence fuel .empty p with
    | .error e => .error e
    | .ok (node, p) =>
      match p.rest with
      | '|' :: rest =>
        match alternatives fuel (p.withRest rest) with
        | .error e => .error e
        | .ok (other, p) => .ok (.alt node other, p)
      | _ => .ok (node, p)

def sequence : Nat → Node → Pending → PendingStep Node
  | 0, _, _ => .error .tooNested
  | fuel + 1, acc, p =>
    let p := p.skip
    let after := fun (node : Node) (p : Pending) =>
      match repeated p.rest.length.succ node p with
      | .error e => .error e
      | .ok (node, p) => sequence fuel (.seq acc node) p
    match p.rest with
    | [] | '|' :: _ | ')' :: _ => .ok (acc, p)
    | '(' :: rest =>
      match opening (p.withRest rest) with
      | .error e => .error e
      | .ok (.directive, p) =>
        if (repetition? p.skip).isSome then .error .nothingToRepeat else sequence fuel acc p
      | .ok (kind, inner) =>
        match alternatives fuel inner with
        | .error e => .error e
        | .ok (node, q) =>
          match q.rest with
          | ')' :: rest =>
            let node := match kind with
              | .capture index => .group index node
              | _ => node
            after node { q with rest, flags := p.flags }
          | _ => .error .unclosedGroup
    | '[' :: rest =>
      match bracketed rest.length.succ (p.withRest rest) with
      | .error e => .error e
      | .ok (s, p) => after (.set s p.flags.fold) p
    | '\\' :: rest =>
      match escape (p.withRest rest) with
      | .error e => .error e
      | .ok (e, p) => after (e.node p.flags) p
    | '.' :: rest =>
      after (.set (if p.flags.dotAll then anySymbol else .negate (lineBreaks p.flags)) false) (p.withRest rest)
    | '^' :: rest => after (.place (if p.flags.lines then .lineStart else .textStart)) (p.withRest rest)
    | '$' :: rest => after (.place (if p.flags.lines then .lineEnd else .textEnd)) (p.withRest rest)
    | c :: rest =>
      if (repetition? p).isSome then .error .nothingToRepeat
      else after (.set (.char c) p.flags.fold) (p.withRest rest)

end

def rules : Rules :=
  { isWord := Property.word.holds, isLineEnd := (· == 10), forgets := false, refusesEmpty := false }

end Pending

/-- The pattern of a text. -/
def parse (text : String) : Except PatternFault Regex :=
  let cs := text.toList
  match Pending.alternatives (2 * cs.length + 2) ⟨cs, .none, 0, []⟩ with
  | .error e => .error e
  | .ok (node, p) =>
    if p.rest.isEmpty then .ok ⟨node, p.count, p.names, Pending.rules⟩ else .error .unopenedGroup

/-!
Replacing every match of a pattern. In the replacement a dollar sign with a number or a name stands
for a group, and two dollar signs for one.
-/

/-- A group by its number or its name. -/
inductive GroupRef where
  | number (n : Nat)
  | name (s : String)

def isRefChar (c : Char) : Bool := c.isAlphanum || c == '_'

def GroupRef.ofChars (cs : List Char) : GroupRef :=
  let digits := match cs with
    | '+' :: rest => rest
    | cs => cs
  match Decimal.ofBase? 10 digits with
  | some n => .number n
  | Option.none => .name (String.ofList cs)

/-- The reference behind a dollar sign, and what follows it. -/
def groupRef? (cs : List Char) : Option (GroupRef × List Char) :=
  match cs with
  | '\x7b' :: rest =>
    match rest.dropWhile (· != '\x7d') with
    | [] => Option.none
    | _ :: after => some (.ofChars (rest.takeWhile (· != '\x7d')), after)
  | cs =>
    let name := cs.takeWhile isRefChar
    if name.isEmpty then Option.none else some (.ofChars name, cs.drop name.length)

def slice (subject : Array Nat) (span : Nat × Nat) : List Char :=
  ((subject.extract span.1 span.2).toList).map Char.ofNat

def groupText (r : Regex) (subject : Array Nat) (found : Array (Option (Nat × Nat))) (g : GroupRef) :
    List Char :=
  let index := match g with
    | .number n => some n
    | .name s => r.names.lookup s
  match index.bind fun i => found.getD i Option.none with
  | some span => slice subject span
  | Option.none => []

def expand (r : Regex) (subject : Array Nat) (found : Array (Option (Nat × Nat))) :
    Nat → List Char → List Char
  | 0, _ => []
  | _ + 1, [] => []
  | fuel + 1, '$' :: rest =>
    match rest with
    | '$' :: rest => '$' :: expand r subject found fuel rest
    | _ =>
      match groupRef? rest with
      | some (g, rest) => groupText r subject found g ++ expand r subject found fuel rest
      | Option.none => '$' :: expand r subject found fuel rest
  | fuel + 1, c :: rest => c :: expand r subject found fuel rest

/-- The matches from left to right. An empty match does not begin where the last match ended. -/
def matches_ (r : Regex) (subject : Array Nat) :
    Nat → Nat → Option Nat → List ((Nat × Nat) × Array (Option (Nat × Nat)))
  | 0, _, _ => []
  | fuel + 1, position, last =>
    match r.search? subject position with
    | Option.none => []
    | some found =>
      match found.getD 0 Option.none with
      | Option.none => []
      | some (lo, hi) =>
        if lo == hi && last == some hi then
          if position ≤ subject.size then matches_ r subject fuel (position + 1) last else []
        else ((lo, hi), found) :: matches_ r subject fuel hi (some hi)

/-- The text from `position` on with the given matches rewritten. -/
def splice (subject : Array Nat) (rewrite : Array (Option (Nat × Nat)) → List Char) (position : Nat) :
    List ((Nat × Nat) × Array (Option (Nat × Nat))) → List Char
  | [] => slice subject (position, subject.size)
  | ((lo, hi), groups) :: rest =>
    slice subject (position, lo) ++ rewrite groups ++ splice subject rewrite hi rest

def symbolsOf (text : String) : Array Nat :=
  (text.toList.map Char.toNat).toArray

/-- The text with every match rewritten from its groups. -/
def rewriteAll (r : Regex) (text : String) (rewrite : Array Nat → Array (Option (Nat × Nat)) → List Char) :
    String :=
  let subject := symbolsOf text
  String.ofList (splice subject (rewrite subject) 0 (r.matches_ subject (2 * subject.size + 4) 0 Option.none))

/-- The text with every match replaced by a template. -/
def replaceAll (r : Regex) (text replacement : String) : String :=
  let template := replacement.toList
  r.rewriteAll text fun subject groups => expand r subject groups (template.length + 1) template

end Regex
end ApiStencil
