import ApiStencil.CommandLine.Flag
import ApiStencil.CommandLine.Reader
/-!
The commands of the program, and what a command line asks for.
-/
set_option autoImplicit false

namespace ApiStencil.CommandLine

def defaultOutput : String := "./generate"

namespace Flag

def template : Flag :=
  { taking .path "template" "TEMPLATE" "Template directory" with short := some 't' }

def file : Flag :=
  { taking .text "file" "FILE" "" with
    short := some 'f'
    about := ["Path or URL to the OpenAPI document (YAML or JSON)",
      "Example: -f path/to/openapi.yaml Example: -f https://example.com/openapi.json"] }

def output (about : String) : Flag :=
  { taking .path "output" "OUTPUT" about with short := some 'o' }

def templateExtension (about : String) : Flag :=
  taking .text "template-extension" "TEMPLATE_EXTENSION" about

def scriptExtension (about : String) : Flag :=
  { taking .text "script-extension" "SCRIPT_EXTENSIONS" about with repeats := true }

end Flag

namespace Command

def generate : Command :=
  { name := "generate"
    about := "Render a template directory against an OpenAPI document"
    flags := [
      .template,
      .file,
      .output s!"Output directory for generated code [default: {defaultOutput}]",
      .switch "verify" "Validate the document as OpenAPI 3 before rendering",
      .taking .path "config" "CONFIG" "Config file (YAML, JSON or TOML); flags override its values",
      .templateExtension "Marker extension of template files [default: tmpl]",
      .scriptExtension "Extension of script files (repeatable) [default: js]",
      .taking .natural "script-timeout-ms" "SCRIPT_TIMEOUT_MS"
        "Abort any script run or command call after this many milliseconds"] }

def inspect : Command :=
  { name := "inspect"
    about := "Show the scripts, commands and templates of a template directory"
    flags := [
      { Flag.template with required := true },
      { Flag.output "Output directory the templates would map into" with otherwise := some defaultOutput },
      .templateExtension "Marker extension of template files",
      .scriptExtension "Extension of script files (repeatable)"] }

def all : List Command := [generate, inspect]

def find? (name : String) : Option Command := all.find? fun c => c.name == name

end Command

/-- What a command line asks for. -/
inductive Request where
  | generate (found : Findings)
  | inspect (found : Findings)
  | help (text : String)
  | version
  /-- Nothing is asked for: the help stands in for a message. -/
  | nothing
  | usage (e : UsageError)

namespace Request

def ofWords (c : Command) (found : Findings → Request) (ws : List String) : Request :=
  match read c.flags ws with
  | .ok f => found f
  | .error (.help long) => .help (Help.ofCommand c long)
  | .error (.usage e) => .usage e

/-- Help on what the words name. -/
def helpOn : List String → Request
  | [] => .help (Help.ofProgram Command.all)
  | ["help"] => .help Help.ofHelp
  | [name] =>
    match Command.find? name with
    | some c => .help (Help.ofCommand c true)
    | none => .usage (.unknownCommand name)
  | name :: next :: _ =>
    if name == "help" || (Command.find? name).isSome then .usage (.unknownCommand next)
    else .usage (.unknownCommand name)

/-- A word of the program itself that is no command. -/
def ofOption (w : String) : Request :=
  match w.toList with
  | '-' :: '-' :: c :: cs =>
    let (name, value) := splitValue (c :: cs)
    let known := name == "help" || name == "version"
    match known, value with
    | false, _ => .usage (.unexpectedArgument ("--" ++ name))
    | true, some v => .usage (.unexpectedValue (Flag.switch name "") v)
    | true, none => if name == "help" then .help (Help.ofProgram Command.all) else .version
  | ['-'] => .usage (.unknownCommand w)
  | ['-', '-'] => .nothing
  | '-' :: c :: _ =>
    if c == 'h' then .help (Help.ofProgram Command.all)
    else if c == 'V' then .version
    else .usage (.unexpectedArgument (String.ofList ['-', c]))
  | _ => .usage (.unknownCommand w)

/-- Behind two hyphens no command is looked for. -/
def ofPlainWord (w : String) : Request :=
  if w == "help" || (Command.find? w).isSome then .usage (.unexpectedArgument w)
  else .usage (.unknownCommand w)

def ofArguments : List String → Request
  | [] => .nothing
  | "generate" :: rest => ofWords .generate .generate rest
  | "inspect" :: rest => ofWords .inspect .inspect rest
  | "help" :: rest => helpOn rest
  | "--" :: w :: _ => ofPlainWord w
  | w :: _ => ofOption w

end Request
end ApiStencil.CommandLine
