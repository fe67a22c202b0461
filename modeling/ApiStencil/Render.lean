import ApiStencil.Command.Arguments
import ApiStencil.Command.Table
import ApiStencil.Config.Basic
import ApiStencil.Template.Eval
/-!
Rendering a directory of templates. All scripts are run before a template is read, all templates are
read before one is rendered, and a template that fails leaves no file behind.
-/
set_option autoImplicit false

namespace ApiStencil

/-- How templates are rendered: the options, where console lines go, and what is done to sources of
scripts. -/
structure Renderer where
  options : RenderOptions
  sink : Journal.Sink
  transform : Path → String → Except Error String

/-- Names of the registered commands, and the files written, in order. -/
structure RenderReport where
  commands : List String
  files : List Path

/-- What a run would work on: scripts, commands with their scripts, templates with their outputs. -/
structure Inspection where
  scripts : List Path
  commands : List (String × Path)
  templates : List (Path × Path)

namespace Command

/-- What the templates of a run may change. -/
abbrev Stage := Script.Host × Journal

def invoke (c : Script.Command) (args : List Json) : Stage → Except CallFailure Json × Stage
  | (host, journal) =>
    let (outcome, lines, host) := host.handle c args
    (outcome, host, journal.hear host.sink lines)

/-- A command as templates call it. -/
def handler (c : Script.Command) : Template.Handler Stage :=
  { filter := fun v args => invoke c (Command.arguments (some v) args)
    function := fun args => invoke c (Command.arguments none args) }

/-- The commands of a table as filters and functions. -/
def Table.commands (t : Table) : Template.Commands Stage := t.entries.map fun (name, c) => (name, handler c)

end Command

namespace Renderer

def host (r : Renderer) : Script.Host := .new r.options.scriptTimeoutMs r.sink r.transform

def openDir (templates out : Path) : Run TemplateDir := do
  return (← Run.ofExcept (TemplateDir.open? (← Run.files) templates)).excluding out

/-- Reads the template in a file. -/
def parseFile (dir : TemplateDir) (file : Path) : Run Template := do
  let name := (← Run.ofExcept (dir.relative file)).templateName
  let source ← Run.ofFile s!"Failed to read template {file.display}" file ((← Run.files).readText file)
  match Template.parse name source with
  | .ok t =>
    Run.tell .info s!"Parsed template {name}"
    return t
  | .error fault =>
    Run.tell .error s!"Failed to parse template {file.display}: {fault.message}"
    throw (.templateParse file fault.message)

def parseFiles (dir : TemplateDir) : List Path → Run (List (Path × Template))
  | [] => pure []
  | p :: rest => do
    let t ← parseFile dir p
    return (p, t) :: (← parseFiles dir rest)

/-- All templates of a directory, which have to make a complete set. -/
def parseAll (dir : TemplateDir) (ext : String) : Run (List (Path × Template) × Template.Set) := do
  let files ← Run.ofExcept (dir.findFiles (← Run.files) [ext])
  let templates ← parseFiles dir files
  let set := Template.Set.ofList (templates.map (·.2))
  match set.fault? with
  | none => return (templates, set)
  | some fault =>
    Run.tell .error s!"Failed to load templates from {dir.root.display}: {fault.message}"
    throw (.templateParse dir.root fault.message)

/-- The top-level fields of an object, and the whole document as `document`. -/
def context (data : Json) : List (String × Json) :=
  let fields := match data with
    | .object fields => fields
    | _ => []
  Json.insertField "document" data fields

def makeParent (out : Path) : Run Unit := do
  match out.parent? with
  | none => return ()
  | some parent =>
    let (made, fs) := (← Run.files).ensureDirs parent
    Run.setFiles fs
    Run.ofFile s!"Failed to create directory {parent.display}" parent made

/-- Makes the file that a template is rendered into, with nothing in it. -/
def openOutput (out : Path) : Run Location := do
  makeParent out
  let (fs, location) ←
    Run.ofFile s!"Failed to create output file {out.display}" out ((← Run.files).createFile out)
  Run.setFiles fs
  return location

/-- Removes what has been written of a file. -/
def removePartial (out : Path) : Run Unit := do
  match (← Run.files).removeFile out with
  | .ok fs => Run.setFiles fs
  | .error e => Run.tell .warn s!"Failed to remove partial output {out.display}: {e.message}"

/-- Takes over what comes of rendering the template in `file` into `out`, which stands at `location`. -/
def settle (file out : Path) (location : Location) (rendering : Template.Rendering Command.Stage) :
    Run Script.Host := do
  let (host, journal) := rendering.world
  set (World.mk ((← Run.files).put location (.file (Utf8.encode rendering.text))) journal)
  match rendering.fault with
  | some fault =>
    Run.tell .error s!"Failed to render template {file.display}: {fault.text}"
    removePartial out
    throw (.templateRender file fault.text)
  | none =>
    Run.tell .debug s!"Wrote {out.display}"
    return host

/-- Renders the template in `file` into `out`. -/
def renderFile (file out : Path) (host : Script.Host)
    (render : Command.Stage → Template.Rendering Command.Stage) : Run Script.Host := do
  let location ← openOutput out
  settle file out location (render (host, (← get).journal))

/-- What a run works on once everything has been read. -/
structure Prepared where
  dir : TemplateDir
  /-- All commands that the scripts have registered, in their order. -/
  registered : List Script.Command
  table : Command.Table
  host : Script.Host
  templates : List (Path × Template)
  set : Template.Set

/-- Runs the scripts and reads the templates. -/
def prepare (r : Renderer) (templates out : Path) : Run Prepared := do
  let dir ← openDir templates out
  Run.tell .info s!"Rendering templates from {dir.root.display}"
  let (registered, table, host) ← Command.Table.loadAll r.host dir r.options.scriptExtensions
  let (parsed, set) ← parseAll dir r.options.templateExtension
  return ⟨dir, registered, table, host, parsed, set⟩

/-- How a template is rendered: the one that goes by its name in the set. -/
def Prepared.rendering (p : Prepared) (context : List (String × Json)) (t : Template) (stage : Command.Stage) :
    Template.Rendering Command.Stage :=
  p.set.render p.table.commands context ((p.set.get? t.name).getD t) stage

/-- Renders templates one after another and gives their outputs. -/
def renderFiles (r : Renderer) (p : Prepared) (out : Path) (context : List (String × Json)) :
    List (Path × Template) → Script.Host → Run (List Path × Script.Host)
  | [], host => pure ([], host)
  | (file, t) :: rest, host => do
    let target ← Run.ofExcept (Path.outputOf p.dir.root file out r.options.templateExtension)
    let host ← renderFile file target host (p.rendering context t)
    let (targets, host) ← renderFiles r p out context rest host
    return (target :: targets, host)

/-- Renders all templates of a run. -/
def write (r : Renderer) (p : Prepared) (out : Path) (data : Json) : Run RenderReport := do
  let (files, _) ← renderFiles r p out (context data) p.templates p.host
  Run.tell .info s!"Rendered {files.length} file(s) into {out.display}"
  return ⟨p.table.names, files⟩

/-- Renders every template below `templates` into its file below `out`. -/
def render (r : Renderer) (templates out : Path) (data : Json) : Run RenderReport := do
  r.write (← r.prepare templates out) out data

def outputs (dir : TemplateDir) (out : Path) (ext : String) : List Path → Except Error (List (Path × Path))
  | [] => .ok []
  | p :: rest => do
    let target ← Path.outputOf dir.root p out ext
    return (p, target) :: (← outputs dir out ext rest)

/-- Runs the scripts and maps the templates, and writes nothing. -/
def inspect (r : Renderer) (templates out : Path) : Run Inspection := do
  let dir ← openDir templates out
  let (table, _) ← Command.Table.load r.host dir r.options.scriptExtensions
  let ext := r.options.templateExtension
  let found ← Run.ofExcept (dir.findFiles (← Run.files) [ext])
  let mapped ← Run.ofExcept (outputs dir out ext found)
  let scripts ← Run.ofExcept (dir.findFiles (← Run.files) r.options.scriptExtensions)
  return ⟨scripts, table.entries.map fun (name, c) => (name, c.script), mapped⟩

end Renderer
end ApiStencil
