import ApiStencil.FileSystem.Basic
import ApiStencil.Json.Cursor
import ApiStencil.Path
import ApiStencil.Toml.Scan
import ApiStencil.Yaml.Fault
/-!
Everything that can stop a run, told apart by cause, and the text that reports it.
-/
set_option autoImplicit false

namespace ApiStencil

inductive Error where
  | io (cause : IoError)
  | file (path : Path) (cause : IoError)
  | yaml (fault : Yaml.Fault)
  | json (fault : Json.Fault)
  | toml (fault : Toml.Fault)
  | openApi (text : String)
  | config (text : String)
  /-- The template directory `root` cannot be walked below `path`. -/
  | discovery (root path : Path) (cause : IoError)
  | outsideRoot (path root : Path)
  | scriptLoad (script : Path) (text : String)
  | scriptCall (command : String) (script : Path) (text : String)
  | scriptRuntime (text : String)
  | templateParse (template : Path) (text : String)
  | templateRender (template : Path) (text : String)
  | template (text : String)
  /-- Messages of the template engine, outermost first. -/
  | engine (first : String) (causes : List String)

namespace Error

def walkText (path : Path) (cause : IoError) : String :=
  s!"IO error for operation on {path.display}: {cause.message}"

def message : Error → String
  | .io e => s!"I/O error: {e.message}"
  | .file p e => s!"I/O error at {p.display}: {e.message}"
  | .yaml f => s!"YAML parsing error: {f.message}"
  | .json f => s!"JSON parsing error: {f.message}"
  | .toml f => s!"TOML parsing error: {f.message}"
  | .openApi m => s!"OpenAPI error: {m}"
  | .config m => s!"Configuration error: {m}"
  | .discovery root p e => s!"Failed to walk template directory {root.display}: {walkText p e}"
  | .outsideRoot p root => s!"{p.display} is not inside {root.display}"
  | .scriptLoad p m => s!"Failed to load script {p.display}: {m}"
  | .scriptCall c p m => s!"Template command '{c}' from {p.display} failed: {m}"
  | .scriptRuntime m => s!"Script runtime error: {m}"
  | .templateParse p m => s!"Failed to parse template {p.display}: {m}"
  | .templateRender p m => s!"Failed to render template {p.display}: {m}"
  | .template m => s!"Template error: {m}"
  | .engine m _ => s!"Template engine error: {m}"

/-- The messages of what lies behind an error, nearest first. -/
def causes : Error → List String
  | .io e => [e.message]
  | .file _ e => [e.message]
  | .yaml f => [f.message]
  | .json f => [f.message]
  | .toml f => [f.message]
  | .discovery _ p e => [walkText p e, e.message]
  | .scriptRuntime m => [m]
  | .engine m rest => m :: rest
  | .openApi _ | .config _ | .outsideRoot _ _ | .scriptLoad _ _ | .scriptCall _ _ _ | .templateParse _ _
  | .templateRender _ _ | .template _ => []

/-- The message with those of all causes. -/
def chain (e : Error) : String :=
  String.intercalate ": " (e.message :: e.causes)

end Error

/-- A call of a command that has failed: the command, its script, and what was thrown. -/
structure CallFailure where
  command : String
  script : Path
  thrown : String
  deriving DecidableEq

def CallFailure.error (f : CallFailure) : Error := .scriptCall f.command f.script f.thrown

end ApiStencil
