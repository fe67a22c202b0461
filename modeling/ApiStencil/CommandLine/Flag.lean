import ApiStencil.Text.Trim
/-!
Flags of a command line: how they are spelt, what value they take, and what is said about them.
-/
set_option autoImplicit false

namespace ApiStencil.CommandLine

inductive ValueKind where
  /-- A path, which is not empty. -/
  | path
  | text
  /-- A natural number of 64 bits. -/
  | natural
  deriving DecidableEq

structure Flag where
  long : String
  short : Option Char
  /-- What value it takes, if it takes one. -/
  value : Option ValueKind
  valueName : String
  repeats : Bool
  required : Bool
  /-- What it does, in paragraphs; the first one is enough for a summary. -/
  about : List String
  otherwise : Option String

namespace Flag

def switch (long about : String) : Flag :=
  { long, short := none, value := none, valueName := "", repeats := false, required := false
    about := [about], otherwise := none }

def taking (kind : ValueKind) (long valueName about : String) : Flag :=
  { switch long about with value := some kind, valueName := valueName }

/-- The flag with its value, as messages name it. -/
def display (f : Flag) : String :=
  match f.value with
  | none => "--" ++ f.long
  | some _ => s!"--{f.long} <{f.valueName}>"

end Flag

/-- What a command line says about a flag. -/
inductive Given where
  | present
  | text (s : String)
  | natural (n : Nat)

/-- Flags that were given, by name, in their order. -/
abbrev Findings := List (String × Given)

namespace Findings

def texts (found : Findings) (name : String) : List String :=
  found.filterMap fun (k, g) =>
    match g with
    | .text s => if k == name then some s else none
    | _ => none

def text? (found : Findings) (name : String) : Option String := (texts found name).head?

def natural? (found : Findings) (name : String) : Option Nat :=
  match found.lookup name with
  | some (.natural n) => some n
  | _ => none

def has (found : Findings) (name : String) : Bool := (found.lookup name).isSome

end Findings
/-!
Texts that tell how a command is used.
-/

structure Command where
  name : String
  about : String
  flags : List Flag

namespace Help

def program : String := "openapi-codegen"

def spaces (n : Nat) : String := String.ofList (List.replicate n ' ')

/-- Lines of two columns. -/
def columns (rows : List (String × String)) : String :=
  let width := rows.foldl (fun n r => max n r.1.length) 0
  String.intercalate "\n" (rows.map fun (a, b) => "  " ++ a ++ spaces (width - a.length + 2) ++ b)

/-- Text in the column of descriptions, with every line indented. -/
def indented (s : String) : String :=
  let margin := spaces 10
  margin ++ Text.replaceText "\n" ("\n" ++ margin) s

def head (f : Flag) : String :=
  (match f.short with
   | some c => String.ofList ['-', c, ',', ' ']
   | none => spaces 4) ++ f.display

def description (long : Bool) (f : Flag) : String :=
  let gap := if long then "\n\n" else " "
  let about := if long then String.intercalate "\n\n" f.about else f.about.headD ""
  match f.otherwise with
  | some v => about ++ gap ++ s!"[default: {v}]"
  | none => about

/-- Whether a command has more to say than a summary does. -/
def hasMore (c : Command) : Bool := c.flags.any fun f => f.about.length > 1

def helpFlag (c : Command) (long : Bool) : Flag :=
  let more := if !hasMore c then "" else if long then " (see a summary with '-h')" else " (see more with '--help')"
  { Flag.switch "help" ("Print help" ++ more) with short := some 'h' }

/-- How a command is called; required flags are spelt out. -/
def call (c : Command) : String :=
  let required := c.flags.filter (·.required)
  String.intercalate " " ([program, c.name, "[OPTIONS]"] ++ required.map Flag.display)

def ofCommand (c : Command) (long : Bool) : String :=
  let long := long && hasMore c
  let gap := if long then "\n\n" else "\n"
  let rows := (c.flags ++ [helpFlag c long]).map fun f => "  " ++ head f ++ "\n" ++ indented (description long f)
  c.about ++ "\n\nUsage: " ++ call c ++ "\n\nOptions:\n" ++ String.intercalate gap rows ++ "\n"

def programAbout : String :=
  "CLI for generating code from OpenAPI documents with script-augmented templates"

def helpAbout : String := "Print this message or the help of the given subcommand(s)"

/-- The text about the program as a whole. -/
def ofProgram (commands : List Command) : String :=
  programAbout ++ s!"\n\nUsage: {program} <COMMAND>\n\nCommands:\n" ++
    columns (commands.map (fun c => (c.name, c.about)) ++ [("help", helpAbout)]) ++
    "\n\nOptions:\n" ++ columns [("-h, --help", "Print help"), ("-V, --version", "Print version")] ++ "\n"

/-- The text about asking for help. -/
def ofHelp : String :=
  helpAbout ++ s!"\n\nUsage: {program} help [COMMAND]...\n\nArguments:\n" ++
    columns [("[COMMAND]...", "Print help for the subcommand(s)")] ++ "\n"

end Help
end ApiStencil.CommandLine
