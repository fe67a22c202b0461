/-!
A place in a JSON text and what can be wrong there. A fault carries the line and the column, counted
in bytes, of the last byte that was looked at.
-/
set_option autoImplicit false

namespace ApiStencil.Json

/-- What is left of the text, and the place of the last byte consumed. -/
structure Cursor where
  rest : List Char
  line : Nat
  column : Nat

/-- Why a text is not JSON, or not JSON of the wanted shape. -/
inductive Cause where
  | endInValue
  | endInString
  | endInList
  | endInObject
  | expectedValue
  | expectedIdent
  | expectedColon
  | expectedListEnd
  | expectedObjectEnd
  | trailingComma
  | trailingCharacters
  | keyNotString
  | invalidNumber
  | numberOutOfRange
  | invalidEscape
  | loneSurrogate
  | unpairedEscape
  | controlCharacter
  | tooDeep
  | shape (text : String)

def Cause.message : Cause → String
  | .endInValue => "EOF while parsing a value"
  | .endInString => "EOF while parsing a string"
  | .endInList => "EOF while parsing a list"
  | .endInObject => "EOF while parsing an object"
  | .expectedValue => "expected value"
  | .expectedIdent => "expected ident"
  | .expectedColon => "expected `:`"
  | .expectedListEnd => "expected `,` or `]`"
  | .expectedObjectEnd => "expected `,` or `\x7d`"
  | .trailingComma => "trailing comma"
  | .trailingCharacters => "trailing characters"
  | .keyNotString => "key must be a string"
  | .invalidNumber => "invalid number"
  | .numberOutOfRange => "number out of range"
  | .invalidEscape => "invalid escape"
  | .loneSurrogate => "lone leading surrogate in hex escape"
  | .unpairedEscape => "unexpected end of hex escape"
  | .controlCharacter => "control character (\\u0000-\\u001F) found while parsing a string"
  | .tooDeep => "recursion limit exceeded"
  | .shape text => text

structure Fault where
  cause : Cause
  line : Nat
  column : Nat

def Fault.message (f : Fault) : String :=
  s!"{f.cause.message} at line {f.line} column {f.column}"

namespace Cursor

def ofString (s : String) : Cursor := ⟨s.toList, 1, 0⟩

/-- The cursor behind the character `c`, which begins what is left. -/
def past (k : Cursor) (c : Char) (rest : List Char) : Cursor :=
  if c == '\n' then ⟨rest, k.line + 1, 0⟩ else ⟨rest, k.line, k.column + c.utf8Size⟩

def drop : Nat → Cursor → Cursor
  | 0, k => k
  | n + 1, k =>
    match k.rest with
    | [] => k
    | c :: rest => drop n (k.past c rest)

def isSpace (c : Char) : Bool :=
  c == ' ' || c == '\n' || c == '\t' || c == '\r'

def skipSpaceFrom (line column : Nat) : List Char → Cursor
  | [] => ⟨[], line, column⟩
  | c :: rest =>
    if c == '\n' then skipSpaceFrom (line + 1) 0 rest
    else if isSpace c then skipSpaceFrom line (column + 1) rest
    else ⟨c :: rest, line, column⟩

def skipSpace (k : Cursor) : Cursor :=
  skipSpaceFrom k.line k.column k.rest

/-- A fault at the last byte consumed. -/
def here (k : Cursor) (cause : Cause) : Fault :=
  ⟨cause, k.line, k.column⟩

/-- A fault at the next byte, which was looked at but not consumed. -/
def ahead (k : Cursor) (cause : Cause) : Fault :=
  match k.rest with
  | [] => k.here cause
  | c :: _ => if c == '\n' then ⟨cause, k.line + 1, 0⟩ else ⟨cause, k.line, k.column + 1⟩

end Cursor
end ApiStencil.Json
