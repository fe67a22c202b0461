import ApiStencil.Text.CaseTable
import ApiStencil.Text.Class
/-!
Full case mapping of characters and texts. A capital sigma at the end of a word becomes the final
small sigma.
-/
set_option autoImplicit false

namespace ApiStencil.Text

def Shift.apply (s : Shift) (c : Char) : Char :=
  Char.ofNat (Int.toNat (c.toNat + s.distance))

/-- Upper case of one character, as one or more characters. -/
def upperOf (c : Char) : List Char :=
  if c.toNat < 128 then [c.toUpper]
  else match bisect? Shift.span Table.toUpper c.toNat with
    | some s => [s.apply c]
    | none =>
      match Table.toUpperLong.find? (·.1 == c.toNat) with
      | some (_, cs) => cs.map Char.ofNat
      | none => [c]

/-- Lower case of one character, whatever stands around it. -/
def lowerOf (c : Char) : List Char :=
  if c.toNat < 128 then [c.toLower]
  else if c == 'İ' then ['i', '\u0307']
  else match bisect? Shift.span Table.toLower c.toNat with
    | some s => [s.apply c]
    | none => [c]

/-- The one character that stands for all that differ from `c` in case alone. -/
def foldOf (c : Char) : Char :=
  match upperOf c with
  | [u] => match lowerOf u with
    | [l] => l
    | _ => c
  | _ => c

def isCased (c : Char) : Bool :=
  isUpper c || isLower c || (0x1c5 ≤ c.toNat && c.toNat ≤ 0x1f2 && Span.member Table.alphabetic c &&
    [0x1c5, 0x1c8, 0x1cb, 0x1f2].contains c.toNat) ||
  (0x1f88 ≤ c.toNat && c.toNat ≤ 0x1ffc && isAlphabetic c && !isLower c)

def isCaseIgnorable (c : Char) : Bool :=
  Span.member Table.caseIgnorable c

/-- Whether the nearest character that is not case-ignorable is cased. -/
def facesCased (cs : List Char) : Bool :=
  match cs.find? (fun c => !isCaseIgnorable c) with
  | some c => isCased c
  | none => false

def toUpperChars (cs : List Char) : List Char :=
  cs.flatMap upperOf

/-- `before` holds the characters already read, nearest first. -/
def toLowerCharsFrom (before : List Char) : List Char → List Char
  | [] => []
  | c :: rest =>
    (if c == 'Σ' then [if facesCased before && !facesCased rest then 'ς' else 'σ'] else lowerOf c)
      ++ toLowerCharsFrom (c :: before) rest

def toUpper (s : String) : String :=
  String.ofList (toUpperChars s.toList)

def toLower (s : String) : String :=
  String.ofList (toLowerCharsFrom [] s.toList)

end ApiStencil.Text

/-!
Identifiers as words. A text is cut into words at every character that is neither a letter nor a
number, at each change from lower to upper case, and before the last capital of a run that a small
letter follows; the words are then written in one of five styles.
-/

namespace ApiStencil.Text

inductive WordMode where
  | boundary
  | lower
  | upper
  deriving DecidableEq

/-- The words of one run of letters and numbers; `word` is the open word, last character first. -/
def caseWords (mode : WordMode) (word : List Char) : List Char → List (List Char)
  | [] => if word.isEmpty then [] else [word.reverse]
  | [c] => [(c :: word).reverse]
  | c :: next :: rest =>
    let following : WordMode := if isLower c then .lower else if isUpper c then .upper else mode
    if following == .lower && isUpper next then
      (c :: word).reverse :: caseWords .boundary [] (next :: rest)
    else if mode == .upper && isUpper c && isLower next then
      word.reverse :: caseWords .boundary [c] (next :: rest)
    else
      caseWords following (c :: word) (next :: rest)

/-- The maximal runs of letters and numbers. -/
def alphanumericRuns (run : List Char) : List Char → List (List Char)
  | [] => if run.isEmpty then [] else [run.reverse]
  | c :: rest =>
    if isAlphanumeric c then alphanumericRuns (c :: run) rest
    else if run.isEmpty then alphanumericRuns [] rest
    else run.reverse :: alphanumericRuns [] rest

def wordsOf (s : String) : List (List Char) :=
  (alphanumericRuns [] s.toList).flatMap (caseWords .boundary [])

/-- A word in lower case; only a capital sigma that ends the word becomes the final one. -/
def lowerWord : List Char → List Char
  | [] => []
  | ['Σ'] => ['ς']
  | c :: rest => lowerOf c ++ lowerWord rest

def capitalWord : List Char → List Char
  | [] => []
  | c :: rest => upperOf c ++ lowerWord rest

def joinWords (sep : String) (words : List (List Char)) : String :=
  String.intercalate sep (words.map String.ofList)

def snakeCase (s : String) : String :=
  joinWords "_" ((wordsOf s).map lowerWord)

def kebabCase (s : String) : String :=
  joinWords "-" ((wordsOf s).map lowerWord)

def shoutySnakeCase (s : String) : String :=
  joinWords "_" ((wordsOf s).map toUpperChars)

def pascalCase (s : String) : String :=
  joinWords "" ((wordsOf s).map capitalWord)

def camelCase (s : String) : String :=
  match wordsOf s with
  | [] => ""
  | first :: rest => joinWords "" (lowerWord first :: rest.map capitalWord)

end ApiStencil.Text
