import ApiStencil.Text.Quoted
/-!
File paths as texts of bytes. Comparing, relating and splitting a path go by its components: empty
ones and inner dots do not count, and a parent step stays as written.
-/
set_option autoImplicit false

namespace ApiStencil

structure Path where
  bytes : Bytes
  deriving DecidableEq

namespace Path

def slash : UInt8 := 47

def dot : UInt8 := 46

inductive Component where
  | root
  | current
  | parent
  | name (bytes : Bytes)
  deriving DecidableEq

def Component.bytes : Component → Bytes
  | .root => [slash]
  | .current => [dot]
  | .parent => [dot, dot]
  | .name bs => bs

def ofString (s : String) : Path := ⟨Utf8.encode s⟩

/-- The path as text, with a replacement character for each malformed sequence. -/
def display (p : Path) : String := Utf8.lossy p.bytes

def debug (p : Path) : String := Text.quotedBytes p.bytes

def isEmpty (p : Path) : Bool := p.bytes.isEmpty

def isAbsolute (p : Path) : Bool := p.bytes.head? == some slash

/-- The pieces between slashes, empty ones too. -/
def splitSlash (piece : Bytes) : Bytes → List Bytes
  | [] => [piece.reverse]
  | b :: rest => if b == slash then piece.reverse :: splitSlash [] rest else splitSlash (b :: piece) rest

def pieces (p : Path) : List Bytes := splitSlash [] p.bytes

/-- The path of these pieces. -/
def ofPieces (ps : List Bytes) : Path := ⟨List.intercalate [slash] ps⟩

/-- Whether a piece leads nowhere: there is nothing in it or a lone dot. -/
def isBlank (piece : Bytes) : Bool := piece == [] || piece == [dot]

def pieceComponent (piece : Bytes) : Component :=
  if piece == [dot, dot] then .parent else .name piece

/-- The pieces that lead somewhere. -/
def named (p : Path) : List Bytes := p.pieces.filter fun piece => !isBlank piece

def components (p : Path) : List Component :=
  let inner := p.named.map pieceComponent
  if p.isAbsolute then .root :: inner
  else if p.pieces.head? == some [dot] then .current :: inner
  else inner

/-- Same components, whatever the spelling. -/
def same (p q : Path) : Bool := p.components == q.components

def startsWith (p root : Path) : Bool := root.components.isPrefixOf p.components

/-- `q` appended to `p`, or `q` itself when it is absolute. -/
def join (p q : Path) : Path :=
  if q.isAbsolute then q
  else if p.isEmpty || p.bytes.getLast? == some slash then ⟨p.bytes ++ q.bytes⟩
  else ⟨p.bytes ++ slash :: q.bytes⟩

def trimLeft (ps : List Bytes) : List Bytes := ps.dropWhile isBlank

def trimRight (ps : List Bytes) : List Bytes := (trimLeft ps.reverse).reverse

/-- The pieces behind the first `n` that lead somewhere. -/
def dropNamed : Nat → List Bytes → List Bytes
  | 0, ps => ps
  | n + 1, ps => dropNamed n ((trimLeft ps).drop 1)

/-- The path from `root` to `p`, when the components of `p` start with those of `root`. -/
def stripRoot? (p root : Path) : Option Path :=
  if !p.startsWith root then none
  else if root.components.isEmpty then
    -- nothing is skipped: a leading slash or dot is a component of its own
    let t := ofPieces (trimRight p.pieces)
    some (if p.isAbsolute then (if t.isEmpty then ⟨[slash]⟩ else t)
      else if p.components.head? == some .current then (if t.isEmpty then ⟨[dot]⟩ else t)
      else ofPieces (trimRight (trimLeft p.pieces)))
  else some (ofPieces (trimRight (trimLeft (dropNamed root.named.length p.pieces))))

/-- The last component, when it is a name. -/
def fileName? (p : Path) : Option Bytes :=
  match p.components.getLast? with
  | some (.name bs) => some bs
  | _ => none

/-- The path without its last component; the root and the empty path have none. -/
def parent? (p : Path) : Option Path :=
  match p.components.getLast? with
  | none | some .root => none
  | some _ =>
    let t := ofPieces (trimRight (trimRight p.pieces).dropLast)
    some (
      if !t.isEmpty then t
      else if p.isAbsolute then ⟨[slash]⟩
      else if p.components.length > 1 then ⟨[dot]⟩
      else ⟨[]⟩)

/-- The path with another name in place of its last component. -/
def withFileName (p : Path) (name : Bytes) : Path :=
  match p.fileName?, p.parent? with
  | some _, some parent => parent.join ⟨name⟩
  | _, _ => p.join ⟨name⟩

/-- What stands behind the last dot of the file name; a dot that starts the name does not count. -/
def extension? (p : Path) : Option Bytes :=
  match p.fileName? with
  | none => none
  | some name =>
    let after := (name.reverse.takeWhile (· != dot)).reverse
    let before := name.length - after.length
    if before ≤ 1 then none else some after

/-- The extension as text, when it is well formed. -/
def extensionText? (p : Path) : Option String :=
  p.extension?.bind Utf8.decode?

end Path
end ApiStencil
