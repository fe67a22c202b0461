import ApiStencil.Decimal.Layout
import ApiStencil.Regex.Pattern
import ApiStencil.Template.Call
import ApiStencil.Template.Value
import ApiStencil.Text.Grapheme
import ApiStencil.Text.Quoted
import ApiStencil.Text.SpellingTable
/-!
Filters on texts.
-/
set_option autoImplicit false

namespace ApiStencil.Template.Filter

open Text

/-- A filter that only needs the text. -/
def ofText (name : String) (f : String → String) : Filter := fun v _ =>
  (valueAs .string name v).map fun s => .string (f s)

/-- Written `\n` and `\t` stand for the characters. -/
def unescapeBreaks (s : String) : String :=
  replaceText "\\t" "\t" (replaceText "\\n" "\n" s)

def onChars (f : List Char → List Char) (s : String) : String :=
  String.ofList (f s.toList)

/-- A filter that needs the text and the argument `pat`. -/
def withPattern (name : String) (f : List Char → List Char → Json) : Filter := fun v args => do
  let s ← valueAs .string name v
  let pat ← argument .string name "pat" args (.missing name "pat")
  pure (f (unescapeBreaks pat).toList s.toList)

def trimStartMatches : Filter :=
  withPattern "trim_start_matches" fun pat cs => .string (String.ofList (dropCopies pat cs))

def trimEndMatches : Filter :=
  withPattern "trim_end_matches" fun pat cs => .string (String.ofList (dropEndCopies pat cs))

/-- The pieces between the copies of `pat`; an empty `pat` stands around every character. -/
def splitPieces (pat cs : List Char) : List (List Char) :=
  if pat.isEmpty then [] :: cs.map (fun c => [c]) ++ [[]] else splitOnText pat cs

def split : Filter :=
  withPattern "split" fun pat cs => Json.strings ((splitPieces pat cs).map String.ofList)

/-- Keeps the first `length` visible characters and marks the cut. -/
def truncate : Filter := fun v args => do
  let s ← valueAs .string "truncate" v
  let length ← argumentOr .size "truncate" "length" args 255
  let mark ← argumentOr .string "truncate" "end" args "…"
  let shown := clusters s.toList
  pure (.string (if shown.length ≤ length then s else String.ofList (shown.take length).flatten ++ mark))

def words (word : List Char) : List Char → List (List Char)
  | [] => if word.isEmpty then [] else [word.reverse]
  | c :: rest =>
    if isBlank c then (if word.isEmpty then words [] rest else word.reverse :: words [] rest)
    else words (c :: word) rest

def wordcount : Filter := fun v _ =>
  (valueAs .string "wordcount" v).map fun s => Json.ofNat (words [] s.toList).length

def replace : Filter := fun v args => do
  let s ← valueAs .string "replace" v
  let old ← argument .string "replace" "from" args (.missing "replace" "from")
  let new ← argument .string "replace" "to" args (.missing "replace" "to")
  pure (.string (replaceText old new s))

def capitalized (s : String) : String :=
  match s.toList with
  | [] => ""
  | c :: rest => String.ofList (upperOf c) ++ toLower (String.ofList rest)

/-- Letters, digits and apostrophes, from the edge of a word to the edge of a word. -/
def titleWord : Regex :=
  let letter : Regex.Node := .set (.union (.property .word) (.char '\'')) false
  { root := .seq (.place .wordEdge)
      (.seq (.group 1 letter) (.seq (.group 2 (.rep letter 0 none true)) (.place .wordEdge)))
    groupCount := 2
    names := []
    rules := Regex.Pending.rules }

def titled (s : String) : String :=
  titleWord.rewriteAll s fun subject groups =>
    let part := fun i => String.ofList (Regex.groupText titleWord subject groups (.number i))
    (toUpper (part 1) ++ toLower (part 2)).toList

def lineBreaksToTags (s : String) : String :=
  replaceText "\n" "<br>" (replaceText "\r\n" "<br>" s)

/-- The lines of a text, without their breaks. -/
def lines (cs : List Char) : List (List Char) :=
  let pieces := splitOnText ['\n'] cs
  let kept := if pieces.getLast? == some [] then pieces.dropLast else pieces
  let last := if pieces.getLast? == some [] then none else pieces.getLast?
  kept.zipIdx.map fun (l, i) =>
    if last.isSome && i + 1 == kept.length then l
    else if l.getLast? == some '\r' then l.dropLast else l

def indentLines (mark : List Char) (first blank : Bool) (cs : List Char) : List Char :=
  let marked := (lines cs).zipIdx.map fun (l, i) =>
    let wants := if i == 0 then first else blank || !(l.all isBlank)
    if wants then mark ++ l else l
  List.intercalate ['\n'] marked

def indent : Filter := fun v args => do
  let s ← valueAs .string "indent" v
  let mark ← argumentOr .string "indent" "prefix" args "    "
  let first ← argumentOr .bool "indent" "first" args false
  let blank ← argumentOr .bool "indent" "blank" args false
  pure (.string (String.ofList (indentLines mark.toList first blank s.toList)))

/-- What stands behind a comment whose opening has been read, on the same line. -/
def behindComment? : List Char → Option (List Char)
  | '-' :: '-' :: '>' :: rest => some rest
  | [] => none
  | c :: rest => if c == '\n' then none else behindComment? rest

/-- What stands behind the tag or comment whose bracket has been read. -/
def behindTag? (cs : List Char) : Option (List Char) :=
  match (dropText? "!--".toList cs).bind behindComment? with
  | some rest => some rest
  | none =>
    match cs.dropWhile (· != '>') with
    | _ :: rest => some rest
    | [] => none

def withoutTags : Nat → List Char → List Char
  | 0, cs => cs
  | _ + 1, [] => []
  | fuel + 1, c :: rest =>
    if c == '<' then
      match behindTag? rest with
      | some after => withoutTags fuel after
      | none => c :: withoutTags fuel rest
    else c :: withoutTags fuel rest

/-- Blanks between the end of a tag and the start of the next are dropped. -/
def withoutGaps : Nat → List Char → List Char
  | 0, cs => cs
  | _ + 1, [] => []
  | fuel + 1, c :: rest =>
    if c == '>' then
      match rest.dropWhile isBlank with
      | '<' :: after => '>' :: '<' :: withoutGaps fuel after
      | _ => c :: withoutGaps fuel rest
    else c :: withoutGaps fuel rest

def slashed (c : Char) : List Char :=
  if c == '\\' || c == '"' || c == '\'' then ['\\', c] else [c]

/-- Bytes outside `kept` are written as a percent sign and two hexadecimal digits. -/
def percentEncode (kept : Char → Bool) (s : String) : String :=
  String.join ((Utf8.encode s).map fun b =>
    let c := Char.ofNat b.toNat
    if b < 128 && kept c then String.singleton c else "%" ++ hexByte b)

def keptInPath (c : Char) : Bool :=
  c.isAlphanum || "-._~/%".toList.contains c

/-- The spelling of a character in ASCII; a wide form is spelt as the narrow one, and a character without a
spelling becomes a hyphen. -/
def asciiOf (c : Char) : String :=
  if c.toNat < 128 then String.singleton c
  else if 0xff01 ≤ c.toNat && c.toNat ≤ 0xff5e then String.singleton (Char.ofNat (c.toNat - 0xfee0))
  else match Table.asciiSpellings.find? fun x => x.2.toList.contains c with
    | some (spelling, _) => spelling
    | none => if isMark c then "" else "-"

/-- Lower case letters and digits; any run of other characters between them is one hyphen. -/
def slugChars (open_ : Bool) : List Char → List Char
  | [] => []
  | c :: rest =>
    if c.isAlphanum then
      c.toLower :: slugChars true rest
    else if open_ && rest.any Char.isAlphanum then '-' :: slugChars false rest
    else slugChars open_ rest

def slug (s : String) : String :=
  String.ofList (slugChars false (String.join (s.toList.map asciiOf)).toList)

end ApiStencil.Template.Filter
