import ApiStencil.Regex.Pattern
import ApiStencil.Template.Call
import ApiStencil.Text.Case
import ApiStencil.Yaml.Printer
/-!
Filters and a function for generating code: word cases, names of references, patterns, YAML and
paths.
-/
set_option autoImplicit false

namespace ApiStencil.Template.Filter

def expectString (filter : String) (v : Json) : Answer String :=
  match v with
  | .string s => .ok s
  | _ => .error (.said s!"{filter} filter expects a string")

def wordCase (name : String) (f : String → String) : Filter := fun v _ =>
  (expectString name v).map fun s => .string (f s)

/-- What follows the last slash. -/
def lastSegment (s : String) : String :=
  String.ofList (s.toList.reverse.takeWhile (· != '/')).reverse

/-- The name at the end of a reference, given as text or as an object that holds one. -/
def refName : Filter := fun v _ =>
  let reference := (v.get? "$ref").getD v
  (expectString "ref_name" reference).map fun s => .string (lastSegment s)

def stringArg? (name : String) (args : Args) : Option String :=
  (Json.lookup name args).bind Json.str?

def badPattern (pattern : String) (fault : Regex.PatternFault) : CallFault :=
  .said s!"invalid regex_replace pattern '{pattern}': regex parse error: {fault.message}"

def regexReplace : Filter := fun v args => do
  let s ← expectString "regex_replace" v
  match stringArg? "pattern" args with
  | none => throw (.said "regex_replace filter requires a `pattern` string")
  | some pattern =>
    match Regex.parse pattern with
    | .error e => throw (badPattern pattern e)
    | .ok r => pure (.string (r.replaceAll s ((stringArg? "replacement" args).getD "")))

def toYaml : Filter := fun v _ => .ok (.string (Yaml.text v))

def trimSlashes (s : String) : String :=
  String.ofList (Text.dropEndWhile (· == '/') (s.toList.dropWhile (· == '/')))

/-- Parts with one slash between them; outer slashes and empty parts are dropped. -/
def joinParts (parts : List String) : String :=
  String.intercalate "/" ((parts.map trimSlashes).filter fun p => !p.isEmpty)

def joinPath (args : Args) : Answer Json :=
  match Json.lookup "parts" args with
  | some (.array items) =>
    match items.mapM Json.str? with
    | some parts => .ok (.string (joinParts parts))
    | none => .error (.said "join_path parts must be strings")
  | _ => .error (.said "join_path requires a `parts` list")

end ApiStencil.Template.Filter
