import ApiStencil.Error
import ApiStencil.Text.Trim
/-!
Settings of a run and what must hold of them before anything is read.
-/
set_option autoImplicit false

namespace ApiStencil

/-- How templates and scripts are recognised, and how long a script may run. -/
structure RenderOptions where
  templateExtension : String
  scriptExtensions : List String
  scriptTimeoutMs : Option Nat

structure Config where
  documentPath : String
  templateDir : String
  outputDir : String
  verify : Bool
  templateExtension : String
  scriptExtensions : List String
  scriptTimeoutMs : Option Nat

def RenderOptions.default : RenderOptions :=
  { templateExtension := "tmpl", scriptExtensions := ["js"], scriptTimeoutMs := none }

/-- An extension without surrounding blanks and leading dots. -/
def normalizeExtension (ext : String) : String :=
  String.ofList ((Text.trimChars ext.toList).dropWhile (· == '.'))

namespace Config

def ofPaths (documentPath templateDir outputDir : String) : Config :=
  { documentPath, templateDir, outputDir, verify := false
    templateExtension := RenderOptions.default.templateExtension
    scriptExtensions := RenderOptions.default.scriptExtensions
    scriptTimeoutMs := none }

def required (c : Config) : List (String × String) :=
  [("openapi_schema_path", c.documentPath), ("template_dir", c.templateDir), ("output_dir", c.outputDir)]

/-- The first thing that is missing, if any. -/
def validate (c : Config) : Except Error Unit :=
  match c.required.find? fun x => (Text.trim x.2).isEmpty with
  | some (name, _) => .error (.config s!"{name} must be specified")
  | none =>
    if (normalizeExtension c.templateExtension).isEmpty then
      .error (.config "template_extension must not be empty")
    else if c.scriptExtensions.any fun e => (normalizeExtension e).isEmpty then
      .error (.config "script_extensions must not contain empty entries")
    else .ok ()

def renderOptions (c : Config) : RenderOptions :=
  { templateExtension := normalizeExtension c.templateExtension
    scriptExtensions := c.scriptExtensions.map normalizeExtension
    scriptTimeoutMs := c.scriptTimeoutMs }

end Config
end ApiStencil
