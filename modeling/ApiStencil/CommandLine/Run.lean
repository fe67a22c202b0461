import ApiStencil.CommandLine.Commands
import ApiStencil.Config.File
import ApiStencil.Generate
/-!
Running the program for a command line: what it does to the world, what it writes and how it ends.
-/
set_option autoImplicit false

namespace ApiStencil.CommandLine

structure Outcome where
  exit : Nat
  stdout : String
  stderr : String

/-- A failure, and what lies behind it, nearest first. -/
structure Failure where
  text : String
  causes : List String

abbrev Task := ExceptT Failure (StateM World)

namespace Task

def fail {α : Type} (text : String) : Task α := throw ⟨text, []⟩

/-- A part of a run; where it fails, `text` says what was being done. -/
def within {α : Type} (text : String) (r : Run α) : Task α :=
  ExceptT.adapt (fun e => ⟨text, e.message :: e.causes⟩) r

end Task

namespace Failure

/-- A cause behind its mark, with further lines below its first one. -/
def causeText (mark : String) (s : String) : String :=
  let margin := "\n" ++ Help.spaces mark.length
  "\n" ++ mark ++ Text.replaceText "\n" margin s

def mark (n : Nat) : String :=
  let digits := toString n
  Help.spaces (5 - digits.length) ++ digits ++ ": "

/-- Several causes are numbered. -/
def causesText : List String → String
  | [] => ""
  | [s] => "\n\nCaused by:" ++ causeText (Help.spaces 4) s
  | causes => "\n\nCaused by:" ++ String.join (causes.zipIdx.map fun (s, n) => causeText (mark n) s)

def report (f : Failure) : String := "Error: " ++ f.text ++ causesText f.causes ++ "\n"

end Failure

/-- The configuration of a file, or the one without any paths. -/
def baseConfig : Option String → Task Config
  | none => return Config.ofPaths "" "" defaultOutput
  | some p => Task.within s!"Failed to load config file {p}" (Config.load (Path.ofString p))

/-- A configuration with the flags that were given in place of its settings. -/
def override (found : Findings) (c : Config) : Config :=
  let extensions := found.texts "script-extension"
  { documentPath := (found.text? "file").getD c.documentPath
    templateDir := (found.text? "template").getD c.templateDir
    outputDir := (found.text? "output").getD c.outputDir
    verify := found.has "verify" || c.verify
    templateExtension := (found.text? "template-extension").getD c.templateExtension
    scriptExtensions := if extensions.isEmpty then c.scriptExtensions else extensions
    scriptTimeoutMs := (found.natural? "script-timeout-ms").or c.scriptTimeoutMs }

/-- The configuration that a command line asks for. -/
def configOf (found : Findings) : Task Config := do
  let c := override found (← baseConfig (found.text? "config"))
  if c.templateDir.isEmpty then Task.fail "A template directory is required (-t/--template)"
  if c.documentPath.isEmpty then Task.fail "An OpenAPI document is required (-f/--file)"
  return c

def generateTask (found : Findings) : Task String := do
  let c ← configOf found
  let r ← Task.within s!"Failed to generate from templates in {c.templateDir}" (generate c)
  return s!"✅ Generated {r.files.length} file(s) with {r.commands.length} template command(s) in: {c.outputDir}\n"

def inspectOptions (found : Findings) : RenderOptions :=
  let extensions := found.texts "script-extension"
  let options := RenderOptions.default
  { options with
    templateExtension := ((found.text? "template-extension").map normalizeExtension).getD options.templateExtension
    scriptExtensions :=
      if extensions.isEmpty then options.scriptExtensions else extensions.map normalizeExtension }

/-- A path as seen from `root`, if it lies below. -/
def below (root p : Path) : String := ((p.stripRoot? root).getD p).display

def inspectionText (templates out : Path) (i : Inspection) : String :=
  let scripts := i.scripts.map fun p => s!"  {below templates p}\n"
  let commands := i.commands.map fun (name, p) => s!"  {name} ({below templates p})\n"
  let mapped := i.templates.map fun (p, q) => s!"  {below templates p} -> {below out q}\n"
  "Scripts:\n" ++ String.join scripts ++ "Commands:\n" ++ String.join commands ++
    "Templates:\n" ++ String.join mapped

def inspectTask (found : Findings) : Task String := do
  let absolute := fun (p : String) => Task.within s!"Invalid path {p}" (Generate.absolute p)
  let templates ← absolute ((found.text? "template").getD "")
  let out ← absolute ((found.text? "output").getD defaultOutput)
  let r := Renderer.ofOptions (inspectOptions found)
  let i ← Task.within s!"Failed to inspect {templates.display}" (r.inspect templates out)
  return inspectionText templates out i

/-- The paths that a command line names, those in a configuration file once that can be read. -/
def named (r : Request) (w : World) : List Path :=
  let given := fun (found : Findings) => ["config", "template", "output"].filterMap found.text?
  let places := match r with
    | .generate found =>
      match (ExceptT.run (configOf found)).run w with
      | (.ok c, _) => [c.templateDir, c.documentPath, c.outputDir]
      | (.error _, _) => given found
    | .inspect found => given found ++ [defaultOutput]
    | .help _ | .version | .nothing | .usage _ => []
  places.map Path.ofString

/-- Does a task; what it returns is written out. -/
def perform (t : Task String) (w : World) : Outcome × World :=
  match (ExceptT.run t).run w with
  | (.ok text, w) => (⟨0, text, ""⟩, w)
  | (.error f, w) => (⟨1, "", f.report⟩, w)

/-- Runs the program. Only a command changes the world. -/
def run (arguments : List String) (w : World) : Outcome × World :=
  match Request.ofArguments arguments with
  | .generate found => perform (generateTask found) w
  | .inspect found => perform (inspectTask found) w
  | .help text => (⟨0, text, ""⟩, w)
  | .version => (⟨0, Help.program ++ " 0.1.0\n", ""⟩, w)
  | .nothing => (⟨2, "", Help.ofProgram Command.all⟩, w)
  | .usage e => (⟨2, "", s!"error: {e.message}\n\nFor more information, try '--help'.\n"⟩, w)

end ApiStencil.CommandLine
