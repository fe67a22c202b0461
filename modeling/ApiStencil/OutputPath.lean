import ApiStencil.Error
import ApiStencil.FileSystem.Basic
import ApiStencil.Text.Trim
/-!
Paths of a run: making them absolute, relating a file to its root, naming a template and finding the
file that it is rendered into.
-/
set_option autoImplicit false

namespace ApiStencil

/-- A path against the working directory. Nothing is resolved: dots and links stay as written. -/
def FileSystem.absolute (fs : FileSystem) (p : Path) : Except Error Path :=
  if p.isEmpty then .error (.config "path must not be empty")
  else .ok (if p.isAbsolute then p else fs.workingDir.join p)

namespace Path

/-- The way from `root` down to `p`, which must not climb back up. -/
def relativeTo (root p : Path) : Except Error Path :=
  match p.stripRoot? root with
  | none => .error (.outsideRoot p root)
  | some rel =>
    if rel.components.contains .parent then .error (.outsideRoot p root) else .ok rel

/-- The name of a template: its components with slashes between them. -/
def templateName (rel : Path) : String :=
  String.intercalate "/" (rel.components.map fun c => Utf8.lossy c.bytes)

/-- A file name without the marker extension at its end. -/
def withoutMarker (name ext : String) : String :=
  let marker := ("." ++ ext).toList.reverse
  match Text.dropText? marker name.toList.reverse with
  | some rest => String.ofList rest.reverse
  | none => name

/-- The file below `out` that the template `p` below `root` is rendered into. -/
def outputOf (root p out : Path) (ext : String) : Except Error Path :=
  match relativeTo root p with
  | .error e => .error e
  | .ok rel =>
    match rel.fileName?.bind Utf8.decode? with
    | none => .error (.template s!"Invalid template file name: {rel.display}")
    | some name =>
      let kept := withoutMarker name ext
      if kept.isEmpty then .error (.template s!"Template {p.display} has no output file name")
      else .ok (out.join (rel.withFileName (Utf8.encode kept)))

end Path
end ApiStencil
