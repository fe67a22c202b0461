import ApiStencil.Json.Reader
import ApiStencil.OpenApi.Parts
import ApiStencil.World
import ApiStencil.Yaml.Reader
/-!
A document that describes an API. It is kept as the value that was read, with everything in it.
-/
set_option autoImplicit false

namespace ApiStencil

structure ApiDocument where
  json : Json

namespace ApiDocument

/-- Whether a location is one on the web, not a file. -/
def isUrl (location : String) : Bool :=
  location.startsWith "http://" || location.startsWith "https://"

def infoText (d : ApiDocument) (name : String) : Option String :=
  ((d.json.get? "info").bind (·.get? name)).bind Json.str?

def title (d : ApiDocument) : Option String := d.infoText "title"

def version (d : ApiDocument) : Option String := d.infoText "version"

/-- More levels than a document has parts inside one another. -/
def maxLevels : Nat := 4096

/-- Whether the value has the shape that such documents have. -/
def verify (d : ApiDocument) : Except Error Unit :=
  match OpenApi.check OpenApi.Part.form maxLevels (.part .document) d.json with
  | .ok () => .ok ()
  | .error e => .error (.openApi s!"Invalid OpenAPI document: {e}")

/-- The value of a text, by the extension of its file; with any other one it may be either. -/
def parse (extension : Option String) (text : String) : Except String Json :=
  let yaml := (Yaml.parse text).mapError Yaml.Fault.message
  match extension with
  | some "json" => (Json.parse text).mapError Json.Fault.message
  | some "yaml" | some "yml" => yaml
  | _ =>
    match Json.parse text with
    | .ok v => .ok v
    | .error _ => yaml.mapError fun e => s!"content is neither valid JSON nor YAML: {e}"

/-- Reads the document in a file. -/
def load (p : Path) : Run ApiDocument := do
  Run.tell .debug s!"Loading OpenAPI document from {p.display}"
  match (← Run.files).readText p with
  | .error e =>
    Run.tell .error s!"Failed to read OpenAPI document {p.display}: {e.message}"
    throw (.io e)
  | .ok text =>
    match parse (p.extensionText?.map String.toLower) text with
    | .ok v => return ⟨v⟩
    | .error e => throw (.openApi s!"Failed to parse OpenAPI document at {p.display}: {e}")

end ApiDocument
end ApiStencil
