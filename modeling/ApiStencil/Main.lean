import ApiStencil.CommandLine.Run
/-!
The program on the files of a disk. What a command line names is read in, the command is run, and what it
has changed is written back.
-/
set_option autoImplicit false

namespace ApiStencil.Disk

def spell (l : Location) : String :=
  "/" ++ String.intercalate "/" (l.map Utf8.lossy)

/-- What kind of thing stands at a location, if anything does. -/
def kind? (l : Location) : IO (Option IO.FS.FileType) := do
  try return some (← ((← IO.currentDir) / spell l).symlinkMetadata).type
  catch _ => return none

def names (l : Location) : IO (List Bytes) := do
  return (← ((← IO.currentDir) / spell l).readDir).toList.map fun e => Utf8.encode e.fileName

def content (l : Location) : IO Bytes := do
  return (← IO.FS.readBinFile (spell l)).toList

/-- Adds what the names lead to, and all below it if it is a tree. -/
partial def add (tree : Bool) (fs : FileSystem) (here : Location) : List Bytes → IO FileSystem
  | [] => do
    if !tree then return fs
    let mut fs := fs
    for name in ← names here do
      fs ← add ((← kind? (here ++ [name])) == some .dir) fs here [name]
    return fs
  | name :: rest => do
    if name == [Path.dot] then add tree fs here rest
    else if name == [Path.dot, Path.dot] then add tree fs here.dropLast rest
    else
      let there := here ++ [name]
      match ← kind? there with
      | some .dir => add tree (fs.put there .directory) there rest
      | some .file => return fs.put there (.file (← content there))
      | some .symlink =>
        let target := Path.ofString (toString (← IO.FS.realPath (spell there)))
        add tree (fs.put there (.link target)) [] (FileSystem.steps target ++ rest)
      | _ => return fs

def addAll (fs : FileSystem) (ps : List Path) : IO FileSystem :=
  ps.foldlM (fun fs p => add true fs [] (FileSystem.steps (fs.workingDir.join p))) fs

/-- Makes the disk hold what `new` holds, where it held `old`. -/
def write (old new : FileSystem) : IO Unit := do
  let changed := new.entries.filter fun (l, e) => old.at? l != some e
  for (l, e) in changed do
    if e == .directory then IO.FS.createDirAll (spell l)
  for (l, e) in changed do
    if let .file bs := e then IO.FS.writeBinFile (spell l) (ByteArray.mk bs.toArray)
  for (l, e) in old.entries do
    if (new.at? l).isNone && e != .directory then IO.FS.removeFile (spell l)

def isShown (r : Journal.Record) : Bool := r.level != .debug

/-- Runs the program on the disk. -/
def run (arguments : List String) : IO UInt32 := do
  let start : FileSystem := ⟨[], Path.ofString (toString (← IO.currentDir))⟩
  let request := CommandLine.Request.ofArguments arguments
  let known ← addAll start (CommandLine.named request ⟨start, .empty⟩)
  let files ← addAll known (CommandLine.named request ⟨known, .empty⟩)
  let (outcome, world) := CommandLine.run arguments ⟨files, .empty⟩
  write files world.files
  for r in world.journal.records.toList.filter isShown do
    IO.eprintln s!"{r.level.name} {r.source.name}: {r.text}"
  IO.print outcome.stdout
  IO.eprint outcome.stderr
  return UInt32.ofNat outcome.exit

end ApiStencil.Disk

def main (arguments : List String) : IO UInt32 := ApiStencil.Disk.run arguments
