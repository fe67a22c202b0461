import ApiStencil.Text.Class
/-!
Texts as UTF-16 code units, which is how scripts count and cut them. A surrogate need not stand in a
pair.
-/
set_option autoImplicit false

namespace ApiStencil.Script

abbrev Units := Array UInt16

namespace Units

def isHigh (u : UInt16) : Bool := 0xd800 ≤ u && u < 0xdc00

def isLow (u : UInt16) : Bool := 0xdc00 ≤ u && u < 0xe000

def joined (high low : UInt16) : Nat :=
  0x10000 + (high.toNat - 0xd800) * 0x400 + (low.toNat - 0xdc00)

/-- One unit for a code point of the first plane, a pair for any other. -/
def pushPoint (u : Units) (n : Nat) : Units :=
  if n < 0x10000 then u.push n.toUInt16
  else
    let m := n - 0x10000
    (u.push (0xd800 + m / 0x400).toUInt16).push (0xdc00 + m % 0x400).toUInt16

def ofPoints (ns : List Nat) : Units := ns.foldl pushPoint #[]

def ofChars (cs : List Char) : Units := cs.foldl (fun u c => pushPoint u c.toNat) #[]

def ofString (s : String) : Units := ofChars s.toList

def pointsOf : List UInt16 → List Nat
  | [] => []
  | [a] => [a.toNat]
  | a :: b :: rest =>
    if isHigh a && isLow b then joined a b :: pointsOf rest else a.toNat :: pointsOf (b :: rest)

/-- The code points; a surrogate without its partner counts as one. -/
def points (u : Units) : List Nat := pointsOf u.toList

def charOf (n : Nat) : Char :=
  if n.isValidChar then Char.ofNat n else '\ufffd'

/-- The text, with a replacement character for each surrogate without its partner. -/
def toText (u : Units) : String := String.ofList (u.points.map charOf)

/-- How many units the code point at a position takes. -/
def widthAt (u : Units) (i : Nat) : Nat :=
  match u[i]?, u[i + 1]? with
  | some a, some b => if isHigh a && isLow b then 2 else 1
  | _, _ => 1

def pointAt (u : Units) (i : Nat) : Nat :=
  match u[i]?, u[i + 1]? with
  | some a, some b => if isHigh a && isLow b then joined a b else a.toNat
  | some a, none => a.toNat
  | none, _ => 0

def slice (u : Units) (lo hi : Nat) : Units := u.extract lo hi

def beforeList : List UInt16 → List UInt16 → Bool
  | _, [] => false
  | [], _ :: _ => true
  | a :: as, b :: bs => if a == b then beforeList as bs else a < b

/-- The order of units, from left to right. -/
def before (a b : Units) : Bool := beforeList a.toList b.toList

def standsAt (u pat : Units) (i : Nat) : Bool := u.extract i (i + pat.size) == pat

/-- The first place at or behind `start` where `pat` stands. -/
def find? (u pat : Units) (start : Nat) : Option Nat :=
  go (u.size + 1 - start) start
where
  go : Nat → Nat → Option Nat
    | 0, _ => none
    | fuel + 1, i =>
      if u.size < i + pat.size then none
      else if u.standsAt pat i then some i
      else go fuel (i + 1)

/-- The last place at or before `start` where `pat` stands. -/
def findBack? (u pat : Units) : Nat → Option Nat
  | 0 => if u.standsAt pat 0 then some 0 else none
  | i + 1 => if u.standsAt pat (i + 1) then some (i + 1) else u.findBack? pat i

/-- Blanks and line ends of script code. -/
def isBlank (n : Nat) : Bool :=
  n == 0xfeff || (n != 0x85 && n.isValidChar && Text.isBlank (Char.ofNat n))

def isLineEnd (n : Nat) : Bool := n == 10 || n == 13 || n == 0x2028 || n == 0x2029

def trimStart (u : Units) : Units :=
  u.extract ((u.toList.takeWhile fun x => isBlank x.toNat).length) u.size

def trimEnd (u : Units) : Units :=
  u.extract 0 (u.size - (u.toList.reverse.takeWhile fun x => isBlank x.toNat).length)

def concat (parts : List Units) : Units := parts.foldl (· ++ ·) #[]

def join (separator : Units) : List Units → Units
  | [] => #[]
  | first :: rest => rest.foldl (fun acc x => acc ++ separator ++ x) first

def rep (u : Units) : Nat → Units → Units
  | 0, acc => acc
  | n + 1, acc => rep u n (acc ++ u)

end Units

/-- A text written out in this library. -/
def txt (s : String) : Units := Units.ofString s

end ApiStencil.Script
