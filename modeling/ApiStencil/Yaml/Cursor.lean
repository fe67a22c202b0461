import ApiStencil.Yaml.Character
import ApiStencil.Yaml.Fault
/-!
What is left of a YAML text, and the place it begins at. Steps take a cursor and give a value with the
cursor behind it.
-/
set_option autoImplicit false

namespace ApiStencil.Yaml

structure Cursor where
  rest : List Char
  mark : Mark

abbrev Step (α : Type) := Except Fault (α × Cursor)

namespace Cursor

def ofString (s : String) : Cursor := ⟨s.toList, .start⟩

/-- More steps than there are characters left. -/
def reach (k : Cursor) : Nat := k.rest.length + 1

/-- The cursor behind one character that is no break. -/
def next (k : Cursor) : Cursor := ⟨k.rest.drop 1, k.mark.next⟩

def skip : Nat → Cursor → Cursor
  | 0, k => k
  | n + 1, k => skip n k.next

/-- What the break at the cursor stands for, if there is one. -/
def lineBreak? (k : Cursor) : Option (Char × Cursor) :=
  match k.rest with
  | '\r' :: '\n' :: rest => some ('\n', ⟨rest, k.mark.nextLine 2⟩)
  | c :: rest => if isBreak c then some (breakChar c, ⟨rest, k.mark.nextLine 1⟩) else none
  | [] => none

def spanFrom (p : Char → Bool) (acc : List Char) (m : Mark) : List Char → List Char × Cursor
  | [] => (acc.reverse, ⟨[], m⟩)
  | c :: rest => if p c then spanFrom p (c :: acc) m.next rest else (acc.reverse, ⟨c :: rest, m⟩)

/-- The characters up to the first one without the property, which holds of no break. -/
def span (p : Char → Bool) (k : Cursor) : List Char × Cursor :=
  spanFrom p [] k.mark k.rest

def skipWhile (p : Char → Bool) (k : Cursor) : Cursor := (k.span p).2

/-- Skips a comment to the end of its line. -/
def skipComment (k : Cursor) : Cursor :=
  if k.rest.head? == some '#' then k.skipWhile fun c => !isBreak c else k

def startsWith (c : Char) (k : Cursor) : Bool := k.rest.head? == some c

def startsBlank (k : Cursor) : Bool := k.rest.head?.any isBlank

/-- Whether the line or the word ends here. -/
def endsWord (cs : List Char) : Bool := cs.head?.all isBlankOrBreak

def endsLine (cs : List Char) : Bool := cs.head?.all isBreak

/-- Whether a line of three `c` begins here, as it stands between documents. -/
def atRule (c : Char) (k : Cursor) : Bool :=
  k.mark.column == 0 && (match k.rest with
    | a :: b :: d :: rest => a == c && b == c && d == c && endsWord rest
    | _ => false)

def atDocumentRule (k : Cursor) : Bool := k.atRule '-' || k.atRule '.'

/-- A problem here, while something was being read since a place. -/
def problem (k : Cursor) (text context : String) (since : Mark) : Fault :=
  .malformed text k.mark (some (context, since))

/-- The end of a line, with a comment before it. -/
def endLine (k : Cursor) (context : String) (since : Mark) : Except Fault Cursor :=
  let k := (k.skipWhile isBlank).skipComment
  if endsLine k.rest then .ok ((k.lineBreak?.map (·.2)).getD k)
  else .error (k.problem "did not find expected comment or line break" context since)

end Cursor

/-- White space inside a scalar. -/
structure Gap where
  blanks : List Char
  first : Option Char
  more : List Char
  /-- Whether a break belongs to it. -/
  broken : Bool
  /-- A tab that stands in the indentation. -/
  tab : Option Mark

namespace Gap

def empty : Gap := ⟨[], none, [], false, none⟩

def addBreak (g : Gap) (c : Char) : Gap :=
  if g.broken then { g with more := g.more ++ [c] } else { g with blanks := [], first := some c, broken := true }

/-- Adds a blank; behind a break only a tab before the column `margin` counts. -/
def addBlank (g : Gap) (margin : Nat) (m : Mark) (c : Char) : Gap :=
  if !g.broken then { g with blanks := g.blanks ++ [c] }
  else if c == '\t' && m.column < margin && g.tab.isNone then { g with tab := some m }
  else g

/-- What the white space stands for: one break becomes a space, of more the first is left out. -/
def text (g : Gap) : List Char :=
  if !g.broken then g.blanks
  else if g.first == some '\n' then (if g.more.isEmpty then [' '] else g.more)
  else g.first.toList ++ g.more

/-- Reads white space and adds it to a gap. -/
def read (margin : Nat) (g : Gap) (m : Mark) : List Char → Gap × Cursor
  | '\r' :: '\n' :: rest => read margin (g.addBreak '\n') (m.nextLine 2) rest
  | c :: rest =>
    if isBreak c then read margin (g.addBreak (breakChar c)) (m.nextLine 1) rest
    else if isBlank c then read margin (g.addBlank margin m c) m.next rest
    else (g, ⟨c :: rest, m⟩)
  | [] => (g, ⟨[], m⟩)

end Gap
end ApiStencil.Yaml
