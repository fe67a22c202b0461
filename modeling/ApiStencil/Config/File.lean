import ApiStencil.Config.JsonText
import ApiStencil.Config.TomlText
import ApiStencil.Config.YamlText
import ApiStencil.World
/-!
Configurations in files. The extension of a file, in any letter case, decides its format.
-/
set_option autoImplicit false

namespace ApiStencil.Config

inductive Format where
  | json
  | toml
  | yaml
  deriving DecidableEq

namespace Format

def ofPath (p : Path) : Format :=
  match p.extensionText?.map String.toLower with
  | some "json" => .json
  | some "toml" => .toml
  | _ => .yaml

def parse (f : Format) (s : String) : Except Error Config :=
  match f with
  | .json => (JsonText.parse s).mapError Error.json
  | .toml => (TomlText.parse s).mapError Error.toml
  | .yaml => (YamlText.parse s).mapError Error.yaml

def render (f : Format) (c : Config) : Except Error String :=
  match f with
  | .json => .ok (JsonText.render c)
  | .toml =>
    match TomlText.render? c with
    | some s => .ok s
    | none => .error (.config "Failed to serialize config: out-of-range value for u64 type")
  | .yaml => .ok (YamlText.render c)

end Format

/-- Reads the configuration in a file. -/
def load (p : Path) : Run Config := do
  let text ← Run.ofExcept (((← Run.files).readText p).mapError Error.io)
  Run.ofExcept ((Format.ofPath p).parse text)

/-- Writes a configuration to a file, once its text is known. -/
def save (c : Config) (p : Path) : Run Unit := do
  let text ← Run.ofExcept ((Format.ofPath p).render c)
  Run.setFiles (← Run.ofExcept (((← Run.files).writeBytes p (Utf8.encode text)).mapError Error.io))

end ApiStencil.Config
