import ApiStencil.Text.Class
/-!
Cutting characters off the ends of a text.
-/
set_option autoImplicit false

namespace ApiStencil.Text

def dropEndWhile (p : Char → Bool) (cs : List Char) : List Char :=
  (cs.reverse.dropWhile p).reverse

def trimChars (cs : List Char) : List Char :=
  dropEndWhile isBlank (cs.dropWhile isBlank)

def trimStart (s : String) : String :=
  String.ofList (s.toList.dropWhile isBlank)

def trimEnd (s : String) : String :=
  String.ofList (dropEndWhile isBlank s.toList)

def trim (s : String) : String :=
  String.ofList (trimChars s.toList)

/-- The rest of `cs` after `pat`, when it starts with it. -/
def dropText? (pat : List Char) (cs : List Char) : Option (List Char) :=
  match pat, cs with
  | [], cs => some cs
  | _ :: _, [] => none
  | p :: ps, c :: cs => if p == c then dropText? ps cs else none

/-- `cs` without any leading copies of `pat`. -/
def dropCopies (pat : List Char) (cs : List Char) : List Char :=
  if pat.isEmpty then cs else go cs.length cs
where
  go : Nat → List Char → List Char
    | 0, cs => cs
    | fuel + 1, cs =>
      match dropText? pat cs with
      | some rest => go fuel rest
      | none => cs

def dropEndCopies (pat : List Char) (cs : List Char) : List Char :=
  (dropCopies pat.reverse cs.reverse).reverse

/-- The pieces of `cs` between the copies of a non-empty `pat`, found from the left. -/
def splitOnText (pat : List Char) (cs : List Char) : List (List Char) :=
  go cs.length [] cs
where
  go : Nat → List Char → List Char → List (List Char)
    | 0, acc, _ => [acc.reverse]
    | _ + 1, acc, [] => [acc.reverse]
    | fuel + 1, acc, c :: rest =>
      match dropText? pat (c :: rest) with
      | some after => acc.reverse :: go fuel [] after
      | none => go fuel (c :: acc) rest

/-- Whether `pat` occurs in `cs`. -/
def hasText (pat : List Char) : List Char → Bool
  | [] => pat.isEmpty
  | c :: rest => (dropText? pat (c :: rest)).isSome || hasText pat rest

/-- Every copy of `pat` replaced by `by_`; an empty `pat` occurs around every character. -/
def replaceText (pat by_ : String) (s : String) : String :=
  if pat.isEmpty then
    String.ofList (by_.toList ++ s.toList.flatMap (fun c => c :: by_.toList))
  else
    String.intercalate by_ ((splitOnText pat.toList s.toList).map String.ofList)

end ApiStencil.Text
