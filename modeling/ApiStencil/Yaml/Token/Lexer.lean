import ApiStencil.Yaml.Token.Scalar
import ApiStencil.Yaml.Token.Tag
/-!
Tokens of a text, one after another. A scalar turns out to be a key only when its colon is found, so
tokens are held back as long as a key may begin before them.
-/
set_option autoImplicit false

namespace ApiStencil.Yaml

/-- A token before which a key may begin. -/
structure Candidate where
  /-- Whether nothing but a key may stand here. -/
  required : Bool
  /-- How many tokens of the text come before it. -/
  number : Nat
  mark : Mark

structure Lexer where
  cursor : Cursor
  /-- Tokens that have been found but not taken. -/
  queue : List Token
  taken : Nat
  /-- Columns of the block collections around, innermost first. -/
  indents : List Nat
  /-- Whether a key may begin here. -/
  keyAllowed : Bool
  /-- The candidate of the innermost pair of brackets, or outside of all. -/
  candidate : Option Candidate
  /-- The candidates of the levels around it. -/
  outer : List (Option Candidate)

namespace Lexer

def ofString (s : String) : Lexer := ⟨.ofString s, [], 0, [], true, none, []⟩

def inFlow (l : Lexer) : Bool := !l.outer.isEmpty

/-- The least column that lies inside the innermost block collection. -/
def margin (l : Lexer) : Nat :=
  match l.indents with
  | [] => 0
  | i :: _ => i + 1

def push (l : Lexer) (t : Token) : Lexer := { l with queue := l.queue ++ [t] }

/-- Puts a token before the one with a number. -/
def insertAt (l : Lexer) (number : Nat) (t : Token) : Lexer :=
  let n := number - l.taken
  { l with queue := l.queue.take n ++ t :: l.queue.drop n }

def skipLine (l : Lexer) (k : Cursor) : Lexer :=
  { l with cursor := k, keyAllowed := l.keyAllowed || !l.inFlow }

/-- Skips white space and comments. A tab may not stand where a key may begin. -/
def skipSpace : Nat → Lexer → Lexer
  | 0, l => l
  | fuel + 1, l =>
    let k := if l.cursor.mark.index == 0 && l.cursor.startsWith '\ufeff' then l.cursor.next else l.cursor
    let k := k.skipWhile fun c => c == ' ' || (c == '\t' && (l.inFlow || !l.keyAllowed))
    let k := k.skipComment
    match k.lineBreak? with
    | some (_, k) => skipSpace fuel (l.skipLine k)
    | none => { l with cursor := k }

def missingColon (l : Lexer) (c : Candidate) : Fault :=
  l.cursor.problem "could not find expected ':'" "while scanning a simple key" c.mark

/-- How long a key may be. -/
def maxKey : Nat := 1024

/-- A candidate that is still one: a key stays on one line and has no more than so many characters. -/
def fresh (l : Lexer) : Option Candidate → Except Fault (Option Candidate)
  | none => .ok none
  | some c =>
    if c.mark.line < l.cursor.mark.line || c.mark.index + maxKey < l.cursor.mark.index then
      if c.required then .error (l.missingColon c) else .ok none
    else .ok (some c)

/-- Gives up candidates, the outermost first. -/
def dropStale (l : Lexer) : Except Fault Lexer := do
  let outer ← l.outer.reverse.mapM l.fresh
  let candidate ← l.fresh l.candidate
  return { l with outer := outer.reverse, candidate }

def dropCandidate (l : Lexer) : Except Fault Lexer :=
  match l.candidate with
  | some c => if c.required then .error (l.missingColon c) else .ok { l with candidate := none }
  | none => .ok l

/-- Makes the next token a candidate, where a key may begin. -/
def saveCandidate (l : Lexer) : Except Fault Lexer := do
  if !l.keyAllowed then return l
  let required := !l.inFlow && l.indents.head? == some l.cursor.mark.column
  let l ← l.dropCandidate
  return { l with candidate := some ⟨required, l.taken + l.queue.length, l.cursor.mark⟩ }

/-- Begins a block collection at a column that is deeper than the innermost one. -/
def roll (l : Lexer) (column : Nat) (number : Option Nat) (kind : Token.Kind) (m : Mark) : Lexer :=
  if l.inFlow || l.indents.head?.any (column ≤ ·) then l
  else
    let l := { l with indents := column :: l.indents }
    match number with
    | some n => l.insertAt n ⟨kind, m, m⟩
    | none => l.push ⟨kind, m, m⟩

/-- The indentations that remain at a column, and how many collections end there. -/
def remaining (column : Nat) : List Nat → List Nat × Nat
  | [] => ([], 0)
  | i :: rest =>
    if column < i then
      let (kept, n) := remaining column rest
      (kept, n + 1)
    else (i :: rest, 0)

def endBlocks (l : Lexer) (kept : List Nat) (n : Nat) : Lexer :=
  let t : Token := ⟨.blockEnd, l.cursor.mark, l.cursor.mark⟩
  { l with indents := kept, queue := l.queue ++ List.replicate n t }

/-- Ends the block collections that are deeper than a column. -/
def unroll (l : Lexer) (column : Nat) : Lexer :=
  if l.inFlow then l
  else
    let (kept, n) := remaining column l.indents
    l.endBlocks kept n

def unrollAll (l : Lexer) : Lexer :=
  if l.inFlow then l else l.endBlocks [] l.indents.length

/-- Takes `n` characters as a token. -/
def mark (l : Lexer) (kind : Token.Kind) (n : Nat) : Lexer :=
  let k := l.cursor.skip n
  { l.push ⟨kind, l.cursor.mark, k.mark⟩ with cursor := k }

def endStream (l : Lexer) : Except Fault Lexer := do
  let m := l.cursor.mark
  let m := if m.column == 0 then m else ⟨m.index, m.line + 1, 0⟩
  let l := { l with cursor := ⟨[], m⟩ }
  let l ← l.unrollAll.dropCandidate
  return ({ l with keyAllowed := false }).push ⟨.streamEnd, m, m⟩

/-- Ends all blocks, before a line that stands between documents. -/
def endDocument (l : Lexer) : Except Fault Lexer := do
  let l ← l.unrollAll.dropCandidate
  return { l with keyAllowed := false }

def directive (l : Lexer) : Except Fault Lexer := do
  let l ← l.endDocument
  let ((kind, stop), k) ← Tag.directive l.cursor
  return { l.push ⟨kind, l.cursor.mark, stop⟩ with cursor := k }

def openFlow (l : Lexer) (kind : Token.Kind) : Except Fault Lexer := do
  let l ← l.saveCandidate
  return ({ l with outer := l.candidate :: l.outer, candidate := none, keyAllowed := true }).mark kind 1

def closeFlow (l : Lexer) (kind : Token.Kind) : Except Fault Lexer := do
  let l ← l.dropCandidate
  let l := match l.outer with
    | c :: rest => { l with candidate := c, outer := rest }
    | [] => l
  return ({ l with keyAllowed := false }).mark kind 1

def flowEntry (l : Lexer) : Except Fault Lexer := do
  let l ← l.dropCandidate
  return ({ l with keyAllowed := true }).mark .flowEntry 1

def refuse (l : Lexer) (text : String) : Fault := .malformed text l.cursor.mark none

/-- A collection that begins at the cursor, unless nothing may begin there. -/
def rollHere (l : Lexer) (kind : Token.Kind) (what : String) : Except Fault Lexer :=
  if l.inFlow then .ok l
  else if !l.keyAllowed then .error (l.refuse s!"{what} are not allowed in this context")
  else .ok (l.roll l.cursor.mark.column none kind l.cursor.mark)

def blockEntry (l : Lexer) : Except Fault Lexer := do
  let l ← l.rollHere .blockSequence "block sequence entries"
  let l ← l.dropCandidate
  return ({ l with keyAllowed := true }).mark .blockEntry 1

def key (l : Lexer) : Except Fault Lexer := do
  let l ← l.rollHere .blockMapping "mapping keys"
  let l ← l.dropCandidate
  return ({ l with keyAllowed := !l.inFlow }).mark .key 1

/-- A colon. It makes a key of the candidate, if there is one. -/
def value (l : Lexer) : Except Fault Lexer := do
  match l.candidate with
  | some c =>
    let l := l.insertAt c.number ⟨.key, c.mark, c.mark⟩
    let l := l.roll c.mark.column (some c.number) .blockMapping c.mark
    return ({ l with candidate := none, keyAllowed := false }).mark .value 1
  | none =>
    let l ← l.rollHere .blockMapping "mapping values"
    return ({ l with keyAllowed := !l.inFlow }).mark .value 1

/-- A token that may be a key or begin one. -/
def node (l : Lexer) (read : Cursor → Except Fault (Token.Kind × Cursor)) : Except Fault Lexer := do
  let l ← l.saveCandidate
  let (kind, k) ← read l.cursor
  return { l.push ⟨kind, l.cursor.mark, k.mark⟩ with cursor := k, keyAllowed := false }

def quoted (l : Lexer) (single : Bool) : Except Fault Lexer :=
  l.node fun k => (Quoted.read single k).map fun (s, k) => (.scalar s .quoted, k)

def plain (l : Lexer) : Except Fault Lexer := do
  let l ← l.saveCandidate
  let ((s, broken), k) ← Plain.read l.inFlow l.margin l.cursor
  return { l.push ⟨.scalar s .plain, l.cursor.mark, k.mark⟩ with cursor := k, keyAllowed := broken }

def block (l : Lexer) (literal : Bool) : Except Fault Lexer := do
  let l ← l.dropCandidate
  let (s, k) ← Block.read literal l.margin l.cursor
  let form := if literal then Form.literal else .folded
  return { l.push ⟨.scalar s form, l.cursor.mark, k.mark⟩ with cursor := k, keyAllowed := true }

/-- Characters that no plain scalar begins with. -/
def indicators : List Char := "-?:,[]\x7b\x7d#&*!|>'\"%@`".toList

def startsPlain (l : Lexer) (c : Char) (rest : List Char) : Bool :=
  !(isBlankOrBreak c || indicators.contains c) || (c == '-' && !rest.head?.any isBlank) ||
    (!l.inFlow && (c == '?' || c == ':') && !Cursor.endsWord rest)

/-- The next token, which begins at the cursor. -/
def token (l : Lexer) : Except Fault Lexer :=
  match l.cursor.rest with
  | [] => l.endStream
  | c :: rest =>
    let word := Cursor.endsWord rest
    if c == '%' && l.cursor.mark.column == 0 then l.directive
    else if l.cursor.atRule '-' then l.endDocument.map (·.mark .documentStart 3)
    else if l.cursor.atRule '.' then l.endDocument.map (·.mark .documentEnd 3)
    else if c == '[' then l.openFlow .flowSequence
    else if c == '\x7b' then l.openFlow .flowMapping
    else if c == ']' then l.closeFlow .flowSequenceEnd
    else if c == '\x7d' then l.closeFlow .flowMappingEnd
    else if c == ',' then l.flowEntry
    else if c == '-' && word then l.blockEntry
    else if c == '?' && (l.inFlow || word) then l.key
    else if c == ':' && (l.inFlow || word) then l.value
    else if c == '*' then l.node fun k => (Tag.name "while scanning an alias" k).map fun (n, k) => (.alias n, k)
    else if c == '&' then l.node fun k => (Tag.name "while scanning an anchor" k).map fun (n, k) => (.anchor n, k)
    else if c == '!' then l.node (Tag.read l.inFlow)
    else if c == '|' && !l.inFlow then l.block true
    else if c == '>' && !l.inFlow then l.block false
    else if c == '\'' then l.quoted true
    else if c == '"' then l.quoted false
    else if l.startsPlain c rest then l.plain
    else .error (l.cursor.problem "found character that cannot start any token" "while scanning for the next token"
      l.cursor.mark)

/-- Finds another token. -/
def advance (l : Lexer) : Except Fault Lexer := do
  let l ← (l.skipSpace l.cursor.reach).dropStale
  (l.unroll l.cursor.mark.column).token

/-- Whether a token has to be found before the first one can be taken. -/
def isShort (l : Lexer) : Bool :=
  l.queue.isEmpty || (l.candidate :: l.outer).any fun c => c.any (·.number == l.taken)

/-- More steps than there are tokens that have not been taken, with the end of the stream. -/
def reach (l : Lexer) : Nat := l.queue.length + l.cursor.reach + 1

def fill : Nat → Lexer → Except Fault Lexer
  | 0, l => .ok l
  | fuel + 1, l =>
    if l.isShort then
      match l.advance with
      | .error e => .error e
      | .ok l => fill fuel l
    else .ok l

/-- The first token, which stays in the queue; at the end of the stream there is always one more. -/
def peek (l : Lexer) : Except Fault (Token × Lexer) := do
  let l ← l.fill l.reach
  match l.queue with
  | t :: _ => return (t, l)
  | [] => return (⟨.streamEnd, l.cursor.mark, l.cursor.mark⟩, l)

def drop (l : Lexer) : Lexer := { l with queue := l.queue.drop 1, taken := l.taken + 1 }

end Lexer
end ApiStencil.Yaml
