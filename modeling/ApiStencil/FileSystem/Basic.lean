import ApiStencil.Path
/-!
A file system as a value: what stands at each location, a location being the names that lead to it
from the root. A path is resolved step by step, through links, to the location it stands for.
-/
set_option autoImplicit false

namespace ApiStencil

/-- Why a file operation fails. -/
inductive IoError where
  | notFound
  | alreadyExists
  | notDirectory
  | isDirectory
  | notEmpty
  | tooManyLinks
  | nameTooLong
  | notUtf8
  | nulInPath
  | other (text : String)
  deriving DecidableEq

/-- The wording of the operating system. -/
def IoError.message : IoError → String
  | .notFound => "No such file or directory (os error 2)"
  | .alreadyExists => "File exists (os error 17)"
  | .notDirectory => "Not a directory (os error 20)"
  | .isDirectory => "Is a directory (os error 21)"
  | .notEmpty => "Directory not empty (os error 39)"
  | .tooManyLinks => "Too many levels of symbolic links (os error 40)"
  | .nameTooLong => "File name too long (os error 36)"
  | .notUtf8 => "stream did not contain valid UTF-8"
  | .nulInPath => "file name contained an unexpected NUL byte"
  | .other text => text

/-- Names from the root down. -/
abbrev Location := List Bytes

inductive Entry where
  | file (content : Bytes)
  | directory
  | link (target : Path)
  deriving DecidableEq

def Entry.isLink : Entry → Bool
  | .link _ => true
  | .file _ | .directory => false

structure FileSystem where
  entries : List (Location × Entry)
  /-- Where relative paths start. -/
  workingDir : Path

namespace FileSystem

def lookup (l : Location) : List (Location × Entry) → Option Entry
  | [] => none
  | (k, e) :: rest => if k == l then some e else lookup l rest

/-- What stands at a location; the root is always a directory. -/
def at? (fs : FileSystem) (l : Location) : Option Entry :=
  if l.isEmpty then some .directory else lookup l fs.entries

def put (fs : FileSystem) (l : Location) (e : Entry) : FileSystem :=
  { fs with entries := (l, e) :: fs.entries.filter fun x => x.1 != l }

/-- Without what stands at a location. -/
def remove (fs : FileSystem) (l : Location) : FileSystem :=
  { fs with entries := fs.entries.filter fun x => x.1 != l }

/-- Without a location and everything below it. -/
def erase (fs : FileSystem) (l : Location) : FileSystem :=
  { fs with entries := fs.entries.filter fun x => !l.isPrefixOf x.1 }

/-- What a path stands for. -/
inductive Target where
  | present (location : Location) (entry : Entry)
  /-- Nothing is there, but a file or directory can be made. -/
  | vacant (location : Location)

def maxName : Nat := 255

def maxLinks : Nat := 40

/-- The names of a path that lead somewhere; a trailing slash leaves a dot, which only a directory
has. -/
def steps (p : Path) : List Bytes :=
  let named := p.pieces.filter (· != [])
  if p.bytes.getLast? == some Path.slash then named ++ [[Path.dot]] else named

/-- Follows names from `here` as far as no link comes in their way; `onLink` goes on from a link. A link in
the last place is followed only if `follow`. -/
def walkNames (fs : FileSystem) (follow : Bool) (onLink : Location → List Bytes → Except IoError Target) :
    Location → List Bytes → Except IoError Target
  | here, [] =>
    match fs.at? here with
    | some e => .ok (.present here e)
    | none => .error .notFound
  | here, name :: rest =>
    if fs.at? here != some .directory then .error .notDirectory
    else if name == [Path.dot] then walkNames fs follow onLink here rest
    else if name == [Path.dot, Path.dot] then walkNames fs follow onLink here.dropLast rest
    else if name.length > maxName then .error .nameTooLong
    else
      match fs.at? (here ++ [name]) with
      | none => if rest.isEmpty then .ok (.vacant (here ++ [name])) else .error .notFound
      | some (.link target) =>
        if rest.isEmpty && !follow then .ok (.present (here ++ [name]) (.link target))
        else onLink (if target.isAbsolute then [] else here) (steps target ++ rest)
      | some _ => walkNames fs follow onLink (here ++ [name]) rest

/-- Follows names and links from `here`, at most so many links. -/
def walk (fs : FileSystem) (follow : Bool) : Nat → Location → List Bytes → Except IoError Target
  | 0 => walkNames fs follow fun _ _ => .error .tooManyLinks
  | links + 1 => walkNames fs follow (walk fs follow links)

/-- The names of a path from the root on. -/
def stepsFromRoot (fs : FileSystem) (p : Path) : List Bytes :=
  steps (if p.isAbsolute then p else fs.workingDir.join p)

def resolve (fs : FileSystem) (p : Path) (follow : Bool) : Except IoError Target :=
  if p.bytes.contains 0 then .error .nulInPath
  else if p.isEmpty then .error .notFound
  else walk fs follow maxLinks [] (fs.stepsFromRoot p)

def isDir (fs : FileSystem) (p : Path) : Bool :=
  match fs.resolve p true with
  | .ok (.present _ .directory) => true
  | _ => false

def readBytes (fs : FileSystem) (p : Path) : Except IoError Bytes :=
  match fs.resolve p true with
  | .error e => .error e
  | .ok (.vacant _) => .error .notFound
  | .ok (.present _ (.file content)) => .ok content
  | .ok (.present _ _) => .error .isDirectory

def readText (fs : FileSystem) (p : Path) : Except IoError String :=
  match fs.readBytes p with
  | .error e => .error e
  | .ok content =>
    match Utf8.decode? content with
    | some s => .ok s
    | none => .error .notUtf8

/-- Makes an empty file, or empties the one that is there. -/
def createFile (fs : FileSystem) (p : Path) : Except IoError (FileSystem × Location) :=
  match fs.resolve p true with
  | .error e => .error e
  | .ok (.vacant l) => .ok (fs.put l (.file []), l)
  | .ok (.present l (.file _)) => .ok (fs.put l (.file []), l)
  | .ok (.present _ _) => .error .isDirectory

def writeBytes (fs : FileSystem) (p : Path) (content : Bytes) : Except IoError FileSystem :=
  match fs.createFile p with
  | .error e => .error e
  | .ok (fs, l) => .ok (fs.put l (.file content))

def makeDir (fs : FileSystem) (p : Path) : Except IoError FileSystem :=
  -- a trailing slash does not make the directory an old one
  match fs.resolve (.ofPieces (Path.trimRight p.pieces)) false with
  | .error e => .error e
  | .ok (.vacant l) => .ok (fs.put l .directory)
  | .ok (.present _ _) => .error .alreadyExists

/-- Makes a directory where there is none, and gives the files also where that fails. -/
def ensureDir (fs : FileSystem) (p : Path) : Except IoError Unit × FileSystem :=
  match fs.makeDir p with
  | .ok fs => (.ok (), fs)
  | .error e => (if fs.isDir p then .ok () else .error e, fs)

/-- Makes a directory and those above it that are missing. What has been made stays where a later one
fails. -/
def ensureDirs (fs : FileSystem) (p : Path) : Except IoError Unit × FileSystem :=
  go (p.bytes.length + 1) fs p
where
  go : Nat → FileSystem → Path → Except IoError Unit × FileSystem
    | 0, fs, _ => (.error .notFound, fs)
    | fuel + 1, fs, p =>
      if p.isEmpty then (.ok (), fs)
      else
        match fs.makeDir p with
        | .ok fs => (.ok (), fs)
        | .error .notFound =>
          match p.parent? with
          | none => (.error (.other "failed to create whole tree"), fs)
          | some parent =>
            match go fuel fs parent with
            | (.error e, fs) => (.error e, fs)
            | (.ok _, fs) => fs.ensureDir p
        | .error e => (if fs.isDir p then .ok () else .error e, fs)

def makeDirs (fs : FileSystem) (p : Path) : Except IoError FileSystem :=
  match fs.ensureDirs p with
  | (.ok _, fs) => .ok fs
  | (.error e, _) => .error e

def makeLink (fs : FileSystem) (p target : Path) : Except IoError FileSystem :=
  match fs.resolve p false with
  | .error e => .error e
  | .ok (.vacant l) => .ok (fs.put l (.link target))
  | .ok (.present _ _) => .error .alreadyExists

/-- Removes a file or a link. -/
def removeFile (fs : FileSystem) (p : Path) : Except IoError FileSystem :=
  match fs.resolve p false with
  | .error e => .error e
  | .ok (.vacant _) => .error .notFound
  | .ok (.present _ .directory) => .error .isDirectory
  | .ok (.present l _) => .ok (fs.remove l)

/-- Removes whatever is there, a directory with all that it holds. -/
def removeAll (fs : FileSystem) (p : Path) : FileSystem :=
  match fs.resolve p false with
  | .ok (.present l _) => fs.erase l
  | _ => fs

def bytesLe : Bytes → Bytes → Bool
  | [], _ => true
  | _ :: _, [] => false
  | a :: as, b :: bs => if a == b then bytesLe as bs else a < b

/-- What an entry is to a directory that may hold it. -/
def heldBy? (l : Location) : Location × Entry → Option (Bytes × Entry) := fun (k, e) =>
  match k.getLast? with
  | some name => if k.dropLast == l then some (name, e) else none
  | none => none

def insertNamed (x : Bytes × Entry) : List (Bytes × Entry) → List (Bytes × Entry)
  | [] => [x]
  | y :: rest => if bytesLe x.1 y.1 then x :: y :: rest else y :: insertNamed x rest

/-- What a directory holds, sorted by name. -/
def children (fs : FileSystem) (l : Location) : List (Bytes × Entry) :=
  (fs.entries.filterMap (heldBy? l)).foldr insertNamed []

end FileSystem
end ApiStencil
