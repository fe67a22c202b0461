import ApiStencil.Config.Settings
import ApiStencil.Toml.Printer
import ApiStencil.Toml.Reader
/-!
Settings in TOML text: a key for each setting. Other keys are passed over, and a timeout that is not set
is left out.
-/
set_option autoImplicit false

namespace ApiStencil.Config.TomlText
open Toml (Entries Fault Value)

def textItem? : Value → Option String
  | .text s => some s
  | _ => none

/-- The setting of a kind that a value stands for. -/
def setting? (kind : Kind) (v : Value) : Option Setting :=
  match kind, v with
  | .text, .text s => some (.text s)
  | .flag, .bool b => some (.flag b)
  | .texts, .array items => (items.mapM textItem?).map Setting.texts
  | .count, .integer n => if 0 ≤ n then some (.count (some n.toNat)) else none
  | _, _ => none

/-- A fault of the text as a whole. -/
def wholeFault (text : String) : Fault := { text, line := 1, column := 1 }

def settings (es : Entries) : List Key → Except Fault Settings
  | [] => .ok []
  | key :: rest =>
    match es.lookup key.name with
    | none => settings es rest
    | some v =>
      match setting? key.kind v with
      | none => .error (wholeFault s!"invalid type for `{key.name}`")
      | some s => (settings es rest).map fun found => (key, s) :: found

/-- The configuration in a text. -/
def parse (s : String) : Except Fault Config := do
  match ofSettings (← settings (← Toml.parse s) Key.all) with
  | .ok c => return c
  | .error key => throw (wholeFault (missingText key))

/-- Whether the timeout is an integer of the format. -/
def fits (c : Config) : Bool := c.scriptTimeoutMs.all fun n => n ≤ Toml.maxInteger

/-- A setting as a line, if it is set. -/
def line? : Key × Setting → Option String
  | (key, .text s) => some s!"{key.name} = {Toml.renderText s}\n"
  | (key, .flag b) => some s!"{key.name} = {b}\n"
  | (key, .texts xs) => some s!"{key.name} = {Toml.renderTexts xs}\n"
  | (key, .count (some n)) => some s!"{key.name} = {n}\n"
  | (_, .count none) => none

/-- The text of a configuration that fits the format. -/
def render? (c : Config) : Option String :=
  if fits c then some (String.join (c.settings.filterMap line?)) else none

end ApiStencil.Config.TomlText
