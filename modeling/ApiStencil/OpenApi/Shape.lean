import ApiStencil.Json.Printer
/-!
Shapes that values of a document have to fit. A record is made of layers, which are looked at one after
another; fields that no layer knows do not matter.
-/
set_option autoImplicit false

namespace ApiStencil.OpenApi

/-- The kinds of objects in a document. -/
inductive Part where
  | document
  | info
  | contact
  | license
  | server
  | serverVariable
  | paths
  | pathItem
  | operation
  | parameter
  | requestBody
  | responses
  | response
  | mediaType
  | encoding
  | header
  | sample
  | link
  | components
  | securityScheme
  | flows
  | implicitFlow
  | tokenFlow (name : String)
  | codeFlow
  | schema
  | discriminator
  | tag
  | externalDocs

inductive Shape where
  | any
  | text
  | flag
  | real
  | size
  /-- One of some words. -/
  | word (words : List String)
  | list (item : Shape)
  | map (value : Shape)
  /-- A value, or an object that names one by `$ref`. -/
  | orReference (value : Shape)
  /-- A truth value, or another value. -/
  | flagOr (name : String) (value : Shape)
  | part (p : Part)

inductive Need where
  | required
  /-- The field may be missing or null. -/
  | optional
  /-- The field may be missing. -/
  | defaulted
  deriving DecidableEq

structure Field where
  name : String
  shape : Shape
  need : Need

def required (name : String) (shape : Shape) : Field := ⟨name, shape, .required⟩

def optional (name : String) (shape : Shape) : Field := ⟨name, shape, .optional⟩

def defaulted (name : String) (shape : Shape) : Field := ⟨name, shape, .defaulted⟩

/-- What a layer asks of fields that it does not list. -/
inductive Others where
  | free
  /-- All fields with a name of some kind have a shape. -/
  | keyed (p : String → Bool) (shape : Shape)
  /-- One of some fields has to be there. -/
  | oneOf (what : String) (choices : List (String × Shape))

structure Layer where
  fields : List Field
  others : Others

/-- What is asked of an object. -/
inductive Form where
  | record (name : String) (layers : List Layer)
  /-- The text in the field `tag` decides which layers there are. -/
  | tagged (name tag : String) (variants : List (String × List Layer))

def mismatch (v : Json) (wanted : String) : Except String Unit :=
  .error (v.mismatchText wanted)

def backquoted (s : String) : String := "`" ++ s ++ "`"

def choiceText (words : List String) : String :=
  match words with
  | [w] => backquoted w
  | ws => "one of " ++ String.intercalate ", " (ws.map backquoted)

def unknownVariant (s : String) (words : List String) : String :=
  s!"unknown variant `{s}`, expected {choiceText words}"

def checkWord (words : List String) : Json → Except String Unit
  | .string s => if words.contains s then .ok () else .error (unknownVariant s words)
  | .object [(s, _)] =>
    if words.contains s then .error "invalid type: map, expected unit" else .error (unknownVariant s words)
  | .object _ => .error "invalid value: map, expected map with a single key"
  | v => mismatch v "string or map"

def checkSize : Json → Except String Unit
  | .number (.int n) => if n < 0 then .error s!"invalid value: integer `{n}`, expected usize" else .ok ()
  | v => mismatch v "usize"

/-- The fields that are there, in the order of their names, then those that are missing, in the order
of the layer. -/
def checkFields (check : Shape → Json → Except String Unit) (known : List Field) (fields : List (String × Json)) :
    Except String Unit := do
  for (name, v) in fields do
    match known.find? (·.name == name), v with
    | some ⟨_, _, .optional⟩, .null | none, _ => pure ()
    | some f, v => check f.shape v
  match known.find? fun f => f.need == .required && (Json.lookup f.name fields).isNone with
  | some f => .error s!"missing field `{f.name}`"
  | none => .ok ()

def checkOthers (check : Shape → Json → Except String Unit) (fields : List (String × Json)) :
    Others → Except String Unit
  | .free => .ok ()
  | .keyed p shape => do
    for (name, v) in fields do
      if p name then check shape v
  | .oneOf what choices =>
    match fields.findSome? fun (name, v) => (choices.lookup name).map fun shape => (shape, v) with
    | some (shape, v) => check shape v
    | none => .error s!"no variant of enum {what} found in flattened data"

def checkLayers (check : Shape → Json → Except String Unit) (fields : List (String × Json)) :
    List Layer → Except String Unit
  | [] => .ok ()
  | l :: rest => do
    checkFields check l.fields fields
    checkLayers check fields rest
    checkOthers check fields l.others

def checkTagged (check : Shape → Json → Except String Unit) (tag : String) (variants : List (String × List Layer))
    (fields : List (String × Json)) : Except String Unit :=
  match Json.lookup tag fields with
  | none => .error s!"missing field `{tag}`"
  | some (.string s) =>
    match variants.lookup s with
    | some layers => checkLayers check fields layers
    | none => .error (unknownVariant s (variants.map (·.1)))
  | some v => mismatch v "variant identifier"

def checkForm (check : Shape → Json → Except String Unit) (form : Form) (v : Json) : Except String Unit :=
  match form, v with
  | .record _ layers, .object fields => checkLayers check fields layers
  | .record name _, v => mismatch v s!"struct {name}"
  | .tagged _ tag variants, .object fields => checkTagged check tag variants fields
  | .tagged name _ _, v => mismatch v s!"internally tagged enum {name}"

/-- Whether a value is a reference to another one. -/
def isReference : Json → Bool
  | .object fields =>
    match Json.lookup "$ref" fields with
    | some (.string _) => true
    | _ => false
  | _ => false

/-- Whether a value fits a shape, or why not; `form` says what is asked of each kind of objects. -/
def check (form : Part → Form) : Nat → Shape → Json → Except String Unit
  | 0, _, _ => .error "recursion limit exceeded"
  | n + 1, shape, v =>
    match shape, v with
    | .any, _ | .text, .string _ | .flag, .bool _ | .real, .number _ => .ok ()
    | .text, v => mismatch v "a string"
    | .flag, v => mismatch v "a boolean"
    | .real, v => mismatch v "f64"
    | .size, v => checkSize v
    | .word words, v => checkWord words v
    | .list s, .array items => items.forM (check form n s)
    | .list _, v => mismatch v "a sequence"
    | .map s, .object fields => fields.forM fun x => check form n s x.2
    | .map _, v => mismatch v "a map"
    | .orReference s, v => if isReference v then .ok () else check form n s v
    | .flagOr _ _, .bool _ => .ok ()
    | .flagOr name s, v =>
      match check form n s v with
      | .ok () => .ok ()
      | .error _ => .error s!"data did not match any variant of untagged enum {name}"
    | .part p, v => checkForm (check form n) (form p) v

end ApiStencil.OpenApi
