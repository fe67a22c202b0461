import ApiStencil.Config.Basic
import ApiStencil.Json.Basic
/-!
Settings as files hold them: by name, each with a value of its kind.
-/
set_option autoImplicit false

namespace ApiStencil.Config

inductive Key where
  | documentPath
  | templateDir
  | outputDir
  | verify
  | templateExtension
  | scriptExtensions
  | scriptTimeoutMs
  deriving DecidableEq

/-- What kind of value a setting has. -/
inductive Kind where
  | text
  | flag
  | texts
  /-- A natural number, or none. -/
  | count

inductive Setting where
  | text (s : String)
  | flag (b : Bool)
  | texts (xs : List String)
  | count (n : Option Nat)

abbrev Settings := List (Key × Setting)

namespace Key

/-- All settings, in the order in which they are written. -/
def all : List Key :=
  [documentPath, templateDir, outputDir, verify, templateExtension, scriptExtensions, scriptTimeoutMs]

def name : Key → String
  | documentPath => "openapi_schema_path"
  | templateDir => "template_dir"
  | outputDir => "output_dir"
  | verify => "verify"
  | templateExtension => "template_extension"
  | scriptExtensions => "script_extensions"
  | scriptTimeoutMs => "script_timeout_ms"

def ofName? (s : String) : Option Key := all.find? fun k => k.name == s

def kind : Key → Kind
  | documentPath | templateDir | outputDir | templateExtension => .text
  | verify => .flag
  | scriptExtensions => .texts
  | scriptTimeoutMs => .count

/-- Whether a file may leave the setting out. -/
def hasDefault : Key → Bool
  | documentPath | templateDir | outputDir => false
  | verify | templateExtension | scriptExtensions | scriptTimeoutMs => true

end Key

def missingText (k : Key) : String := s!"missing field `{k.name}`"

def duplicateText (k : Key) : String := s!"duplicate field `{k.name}`"

def textOf (s : Settings) (k : Key) : Option String :=
  match s.lookup k with
  | some (.text x) => some x
  | _ => none

def needText (s : Settings) (k : Key) : Except Key String :=
  match textOf s k with
  | some x => .ok x
  | none => .error k

/-- The configuration of some settings, or the first one that is missing. -/
def ofSettings (s : Settings) : Except Key Config := do
  let c := ofPaths (← needText s .documentPath) (← needText s .templateDir) (← needText s .outputDir)
  return { c with
    verify := match s.lookup .verify with
      | some (.flag b) => b
      | _ => c.verify
    templateExtension := (textOf s .templateExtension).getD c.templateExtension
    scriptExtensions := match s.lookup .scriptExtensions with
      | some (.texts xs) => xs
      | _ => c.scriptExtensions
    scriptTimeoutMs := match s.lookup .scriptTimeoutMs with
      | some (.count n) => n
      | _ => c.scriptTimeoutMs }

def settings (c : Config) : Settings :=
  [(.documentPath, .text c.documentPath), (.templateDir, .text c.templateDir), (.outputDir, .text c.outputDir),
    (.verify, .flag c.verify), (.templateExtension, .text c.templateExtension),
    (.scriptExtensions, .texts c.scriptExtensions), (.scriptTimeoutMs, .count c.scriptTimeoutMs)]

def Setting.json : Setting → Json
  | .text s => .string s
  | .flag b => .bool b
  | .texts xs => Json.strings xs
  | .count (some n) => Json.ofNat n
  | .count none => .null

/-- Names and values of all settings, in the order in which they are written. -/
def fields (c : Config) : List (String × Json) :=
  c.settings.map fun (k, s) => (k.name, s.json)

end ApiStencil.Config
