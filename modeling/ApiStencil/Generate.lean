import ApiStencil.OpenApi.Document
import ApiStencil.Render
/-!
A whole run: the configuration is checked, the document is read, and the templates are rendered. Nothing
is read for a configuration that is not complete.
-/
set_option autoImplicit false

namespace ApiStencil

/-- A renderer that keeps scripts as they are, with their console among the records. -/
def Renderer.ofOptions (options : RenderOptions) : Renderer :=
  { options, sink := .records, transform := fun _ source => .ok source }

namespace Generate

def absolute (p : String) : Run Path := do
  Run.ofExcept ((← Run.files).absolute (Path.ofString p))

/-- The document at a location with the name that it goes by. The web is out of reach. -/
def document (location : String) : Run (String × ApiDocument) := do
  if ApiDocument.isUrl location then
    Run.tell .debug s!"Fetching OpenAPI document from {location}"
    throw (.openApi s!"Failed to fetch OpenAPI document from {location}: there is no network")
  else
    let p ← absolute location
    return (p.display, ← ApiDocument.load p)

/-- What a configuration asks to be rendered. -/
structure Input where
  templates : Path
  out : Path
  data : Json

/-- Checks a configuration and reads its document. -/
def input (c : Config) : Run Input := do
  Run.ofExcept c.validate
  let templates ← absolute c.templateDir
  let out ← absolute c.outputDir
  let (name, doc) ← document c.documentPath
  if c.verify then Run.ofExcept doc.verify
  let title := doc.title.getD "untitled"
  let version := doc.version.getD "unversioned"
  Run.tell .info s!"Loaded OpenAPI document {name} ({title} {version})"
  return ⟨templates, out, doc.json⟩

end Generate

/-- Renders the templates of a configuration for its document. -/
def generate (c : Config) : Run RenderReport := do
  let input ← Generate.input c
  (Renderer.ofOptions c.renderOptions).render input.templates input.out input.data

end ApiStencil
