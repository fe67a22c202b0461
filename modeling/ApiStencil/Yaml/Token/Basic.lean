import ApiStencil.Yaml.Fault
/-!
Tokens of YAML text. Indentation shows as tokens where a block collection begins and ends.
-/
set_option autoImplicit false

namespace ApiStencil.Yaml

/-- How a scalar is written. -/
inductive Form where
  | plain
  | quoted
  | literal
  | folded
  deriving DecidableEq

inductive Token.Kind where
  | streamEnd
  | version (major minor : Nat)
  /-- What a handle at the front of a tag stands for. -/
  | handle (handle lead : String)
  | documentStart
  | documentEnd
  | blockSequence
  | blockMapping
  | blockEnd
  | flowSequence
  | flowSequenceEnd
  | flowMapping
  | flowMappingEnd
  | blockEntry
  | flowEntry
  | key
  | value
  | alias (name : String)
  | anchor (name : String)
  | tag (handle suffix : String)
  | scalar (text : String) (form : Form)
  deriving DecidableEq

structure Token where
  kind : Token.Kind
  start : Mark
  stop : Mark

end ApiStencil.Yaml

/-!
What the tokens of a text say: collections that begin and end, and the scalars in them.
-/

namespace ApiStencil.Yaml

structure Scalar where
  text : String
  form : Form
  tag : Option String

inductive Event where
  | documentStart
  | documentEnd
  | streamEnd
  | alias (name : String)
  | scalar (anchor : Option String) (value : Scalar)
  | sequence (anchor tag : Option String)
  | sequenceEnd
  | mapping (anchor tag : Option String)
  | mappingEnd

end ApiStencil.Yaml
