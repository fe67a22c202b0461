import ApiStencil.Json.Basic
/-!
How a template's arguments become the positional list of a command.
-/
set_option autoImplicit false

namespace ApiStencil.Command

/-- The name of the argument that holds the positional list. -/
def listName : String := "args"

def listed (named : List (String × Json)) : List Json :=
  match Json.lookup listName named with
  | some (.array items) => items
  | some single => [single]
  | none => []

/-- All other named arguments, as one object. -/
def options (named : List (String × Json)) : List Json :=
  let rest := named.filter fun x => x.1 != listName
  if rest.isEmpty then [] else [Json.ofFields rest]

/-- First the piped value, then the list, last the options. -/
def arguments (piped : Option Json) (named : List (String × Json)) : List Json :=
  piped.toList ++ listed named ++ options named

end ApiStencil.Command
