/-!
Where a YAML text stops making sense, and why.
-/
set_option autoImplicit false

namespace ApiStencil.Yaml

/-- A place in a text: characters from its start, line and column, all from zero. -/
structure Mark where
  index : Nat
  line : Nat
  column : Nat
  deriving DecidableEq, Inhabited

namespace Mark

def start : Mark := ⟨0, 0, 0⟩

/-- The place behind one more character of the line. -/
def next (m : Mark) : Mark := ⟨m.index + 1, m.line, m.column + 1⟩

/-- The place behind a break of `n` characters. -/
def nextLine (m : Mark) (n : Nat) : Mark := ⟨m.index + n, m.line + 1, 0⟩

def text (m : Mark) : String :=
  s!"line {m.line + 1} column {m.column + 1}"

/-- The place as it stands behind a message; the very start is left out. -/
def suffix (m : Mark) : String :=
  if m.line == 0 && m.column == 0 then "" else s!" at {m.text}"

end Mark

/-- A place inside a document. -/
inductive Place where
  | root
  | item (parent : Place) (index : Nat)
  | field (parent : Place) (key : String)
  /-- The value of a key that has no text of its own. -/
  | unnamed (parent : Place)

def Place.text : Place → String
  | .root => "."
  | .item p i => s!"{p.text}[{i}]"
  | .field .root key => key
  | .field p key => s!"{p.text}.{key}"
  | .unnamed .root => "?"
  | .unnamed p => s!"{p.text}.?"

inductive Fault where
  /-- The text is not YAML. The context says what was being read, and since where. -/
  | malformed (problem : String) (mark : Mark) (context : Option (String × Mark))
  /-- A character that may not stand in the text, at a count of bytes. -/
  | control (offset : Nat)
  | unknownAnchor (mark : Mark)
  | manyDocuments
  | noDocument
  | tooDeep (mark : Mark)
  | tooManyAliases
  /-- A value of another kind than the wanted one. -/
  | shape (text : String) (mark : Mark) (place : Place)

def Fault.message : Fault → String
  | .malformed problem mark none => problem ++ mark.suffix
  | .malformed problem mark (some (context, since)) =>
    problem ++ mark.suffix ++ ", " ++ context ++
      (if since.line == mark.line && since.column == mark.column then "" else since.suffix)
  | .control 0 => "control characters are not allowed"
  | .control n => s!"control characters are not allowed at position {n}"
  | .unknownAnchor m => "unknown anchor" ++ m.suffix
  | .manyDocuments => "deserializing from YAML containing more than one document is not supported"
  | .noDocument => "EOF while parsing a value"
  | .tooDeep m => "recursion limit exceeded" ++ m.suffix
  | .tooManyAliases => "repetition limit exceeded"
  | .shape text m place =>
    (if place.text == "." then "" else place.text ++ ": ") ++ text ++ m.suffix

end ApiStencil.Yaml
