import ApiStencil.OutputPath
/-!
The directory that templates and scripts are found in. Files come in the order of their paths, each
directory's entries sorted by name; links below the root are not followed.
-/
set_option autoImplicit false

namespace ApiStencil

structure TemplateDir where
  root : Path
  /-- A path below the root that is left out, with all below it. -/
  excluded : Option Path

namespace TemplateDir

def open? (fs : FileSystem) (root : Path) : Except Error TemplateDir :=
  if fs.isDir root then .ok ⟨root, none⟩
  else .error (.config s!"Template directory not found: {root.display}")

/-- Leaves out `p`, when it lies strictly below the root. -/
def excluding (dir : TemplateDir) (p : Path) : TemplateDir :=
  if p.startsWith dir.root && !p.same dir.root then { dir with excluded := some p } else dir

def relative (dir : TemplateDir) (p : Path) : Except Error Path := Path.relativeTo dir.root p

def skips (dir : TemplateDir) (p : Path) : Bool := dir.excluded.any p.same

/-- The files at and below `l`, which `p` leads to. -/
def filesBelow (dir : TemplateDir) (fs : FileSystem) : Nat → Location → Path → Entry → List Path
  | 0, _, _, _ => []
  | fuel + 1, l, p, e =>
    if dir.skips p then []
    else match e with
      | .link _ => []
      | .file _ => [p]
      | .directory =>
        (fs.children l).flatMap fun (name, child) =>
          filesBelow dir fs fuel (l ++ [name]) (p.join ⟨name⟩) child

/-- All files, or why the root cannot be walked. -/
def files (dir : TemplateDir) (fs : FileSystem) : Except Error (List Path) :=
  if dir.skips dir.root then .ok []
  else
    match fs.resolve dir.root true with
    | .error e => .error (.discovery dir.root dir.root e)
    | .ok (.vacant _) => .error (.discovery dir.root dir.root .notFound)
    | .ok (.present l .directory) => .ok (dir.filesBelow fs (fs.entries.length + 1) l dir.root .directory)
    | .ok (.present _ _) =>
      -- a link in place of the root is followed to a directory only
      match fs.resolve dir.root false with
      | .ok (.present _ (.file _)) => .ok [dir.root]
      | _ => .ok []

def hasExtension (extensions : List String) (p : Path) : Bool :=
  p.extensionText?.any extensions.contains

/-- The files with one of these extensions. -/
def findFiles (dir : TemplateDir) (fs : FileSystem) (extensions : List String) : Except Error (List Path) :=
  (dir.files fs).map fun found => found.filter (hasExtension extensions)

def debug (dir : TemplateDir) : String :=
  let excluded := match dir.excluded with
    | some p => s!"Some({p.debug})"
    | none => "None"
  "TemplateDir \x7b root: " ++ dir.root.debug ++ ", excluded: " ++ excluded ++ " \x7d"

end TemplateDir
end ApiStencil
