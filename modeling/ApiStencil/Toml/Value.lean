import ApiStencil.Decimal.Read
/-!
TOML values, and the rules by which statements add to a table. How a table came to be decides who may
add to it.
-/
set_option autoImplicit false

namespace ApiStencil.Toml

inductive Origin where
  /-- Named by a header of its own. -/
  | header
  /-- On the way to a table with a header. -/
  | implied
  /-- On the way of a key with dots. -/
  | dotted
  /-- Written as a value. -/
  | inline
  deriving DecidableEq

inductive Value where
  | text (s : String)
  | integer (n : Int)
  | float (x : Float)
  | bool (b : Bool)
  /-- A date, a time or both, as written. -/
  | moment (s : String)
  | array (items : List Value)
  | table (origin : Origin) (entries : List (String × Value))
  /-- Tables that each have a header of their own. -/
  | tables (items : List (List (String × Value)))

abbrev Entries := List (String × Value)

namespace Entries

/-- The entry of a key replaced, or a new one at the end. -/
def put (k : String) (v : Value) : Entries → Entries
  | [] => [(k, v)]
  | e :: rest => if e.1 == k then (k, v) :: rest else e :: put k v rest

/-- A change of a table, or the key that stands against it. -/
abbrev Change := Origin → Entries → Except String Entries

/-- A change of the table at the end of a path. Tables on the way are made where there are none, and of
tables with headers of their own the last one is meant. A key with dots goes only through tables without
a header. -/
def under (asKey : Bool) (f : Change) : List String → Change
  | [], origin, es => f origin es
  | k :: rest, _, es =>
    match es.lookup k with
    | none =>
      let origin := if asKey then .dotted else .implied
      (under asKey f rest origin []).map fun inner => put k (.table origin inner) es
    | some (.table origin inner) =>
      if origin == .inline || (asKey && origin == .header) then .error k
      else (under asKey f rest origin inner).map fun inner => put k (.table origin inner) es
    | some (.tables items) =>
      (under asKey f rest .header (items.getLast?.getD [])).map fun inner =>
        put k (.tables (items.dropLast ++ [inner])) es
    | some _ => .error k

/-- A new key with its value. A path of several keys ends in a table made by such a path. -/
def add (path : List String) (k : String) (v : Value) : Change :=
  under true (fun origin es =>
    if (origin == .dotted) == path.isEmpty || (es.lookup k).isSome then .error k else .ok (put k v es)) path

/-- A table of its own under a header. -/
def openTable (k : String) : Change := fun _ es =>
  match es.lookup k with
  | none => .ok (put k (.table .header []) es)
  | some (.table .implied inner) => .ok (put k (.table .header inner) es)
  | some _ => .error k

/-- One more of the tables under a header. -/
def appendTable (k : String) : Change := fun _ es =>
  match es.lookup k with
  | none => .ok (put k (.tables [[]]) es)
  | some (.tables items) => .ok (put k (.tables (items ++ [[]])) es)
  | some _ => .error k

end Entries
end ApiStencil.Toml

/-!
What a TOML text holds without quotes: dates, times of a day, both together, and numbers.
-/

namespace ApiStencil.Toml.Moment

/-- The number that `n` digits at the front make, if it is one from `lo` to `hi`, with the rest. -/
def field? (n lo hi : Nat) (cs : List Char) : Option (Nat × List Char) :=
  let digits := cs.take n
  if digits.length == n && digits.all Char.isDigit then
    let v := Decimal.naturalOf digits
    if lo ≤ v && v ≤ hi then some (v, cs.drop n) else none
  else none

def mark? (c : Char) : List Char → Option (List Char)
  | d :: rest => if d == c then some rest else none
  | [] => none

def isLeapYear (year : Nat) : Bool :=
  year % 4 == 0 && (year % 100 != 0 || year % 400 == 0)

def daysOf (year month : Nat) : Nat :=
  if month == 2 then (if isLeapYear year then 29 else 28)
  else if [4, 6, 9, 11].contains month then 30
  else 31

/-- The rest behind a date. -/
def date? (cs : List Char) : Option (List Char) := do
  let (year, cs) ← field? 4 0 9999 cs
  let cs ← mark? '-' cs
  let (month, cs) ← field? 2 1 12 cs
  let cs ← mark? '-' cs
  let (_, cs) ← field? 2 1 (daysOf year month) cs
  return cs

/-- The rest behind a fraction of a second, if there is one. -/
def fraction? (cs : List Char) : Option (List Char) :=
  match cs with
  | '.' :: rest => if rest.head?.any Char.isDigit then some (rest.dropWhile Char.isDigit) else none
  | _ => some cs

/-- The rest behind a time of a day; a minute may have a leap second. -/
def time? (cs : List Char) : Option (List Char) := do
  let (_, cs) ← field? 2 0 23 cs
  let cs ← mark? ':' cs
  let (_, cs) ← field? 2 0 59 cs
  let cs ← mark? ':' cs
  let (_, cs) ← field? 2 0 60 cs
  fraction? cs

/-- The rest behind a distance from universal time, if there is one. -/
def offset? (cs : List Char) : Option (List Char) :=
  match cs with
  | 'Z' :: rest | 'z' :: rest => some rest
  | '+' :: rest | '-' :: rest => do
    let (_, cs) ← field? 2 0 23 rest
    let cs ← mark? ':' cs
    let (_, cs) ← field? 2 0 59 cs
    return cs
  | _ => some cs

def isBetween (c : Char) : Bool := c == 'T' || c == 't' || c == ' '

/-- Whether a text is a date, a time, or a date and a time with or without an offset. -/
def isValid (cs : List Char) : Bool :=
  match date? cs with
  | none => (time? cs).any List.isEmpty
  | some [] => true
  | some (c :: rest) => isBetween c && ((time? rest).bind offset?).any List.isEmpty

end ApiStencil.Toml.Moment

/-!
Numbers. Single underscores may part digits, and a number that is not zero does not begin with one.
-/

namespace ApiStencil.Toml

/-- Some digits with single underscores between them, without these. -/
def grouped? (isDigit : Char → Bool) : List Char → Option (List Char)
  | [] => none
  | [c] => if isDigit c then some [c] else none
  | c :: '_' :: rest => if isDigit c then (grouped? isDigit rest).map (c :: ·) else none
  | c :: rest => if isDigit c then (grouped? isDigit rest).map (c :: ·) else none

def grouped10? : List Char → Option (List Char) := grouped? Char.isDigit

/-- The digits of a number in front of a point or an exponent. -/
def whole? (cs : List Char) : Option (List Char) :=
  match cs with
  | '0' :: _ :: _ => none
  | _ => grouped10? cs

/-- Whether a sign is a minus, and what stands behind it. -/
def signed (cs : List Char) : Bool × List Char :=
  match cs with
  | '-' :: rest => (true, rest)
  | '+' :: rest => (false, rest)
  | _ => (false, cs)

def maxInteger : Nat := Nat.pow 2 63 - 1

def inBase? (base : Nat) (cs : List Char) : Option Nat :=
  (grouped? (fun c => (Decimal.digitOfBase? base c).isSome) cs).bind (Decimal.ofBase? base)

/-- An integer of 64 bits. -/
def integer? (cs : List Char) : Option Int :=
  let positive := fun (n : Nat) => if n ≤ maxInteger then some (n : Int) else none
  match cs with
  | '0' :: 'x' :: rest => (inBase? 16 rest).bind positive
  | '0' :: 'o' :: rest => (inBase? 8 rest).bind positive
  | '0' :: 'b' :: rest => (inBase? 2 rest).bind positive
  | _ =>
    let (negative, rest) := signed cs
    (whole? rest).bind fun digits =>
      let n := Decimal.naturalOf digits
      if negative then (if n ≤ maxInteger + 1 then some (-(n : Int)) else none) else positive n

def isExponentMark (c : Char) : Bool := c == 'e' || c == 'E'

/-- The exponent behind its letter, or zero where there is none. -/
def exponent? (cs : List Char) : Option Int :=
  match cs with
  | [] => some 0
  | _ :: rest =>
    let (negative, rest) := signed rest
    (grouped10? rest).map fun digits =>
      let n : Int := Decimal.naturalOf digits
      if negative then -n else n

/-- A number without a sign that has a fraction, an exponent or both. -/
def magnitude? (cs : List Char) : Option Float := do
  let (front, behind) := cs.span fun c => !isExponentMark c
  let (whole, fraction) := front.span (· != '.')
  guard (!(fraction.isEmpty && behind.isEmpty))
  let digits ← if fraction.isEmpty then some [] else grouped10? (fraction.drop 1)
  return Decimal.nearest (← whole? whole) digits (← exponent? behind)

/-- A float. One above all finite ones is none, unless it is written as infinity. -/
def float? (cs : List Char) : Option Float :=
  let (negative, rest) := signed cs
  let apply := fun (x : Float) => if negative then -x else x
  match rest with
  | ['i', 'n', 'f'] => some (apply (1.0 / 0.0))
  | ['n', 'a', 'n'] => some (apply (0.0 / 0.0))
  | _ => ((magnitude? rest).map apply).bind fun x => if x == 1.0 / 0.0 then none else some x

end ApiStencil.Toml
