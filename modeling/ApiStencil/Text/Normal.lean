import ApiStencil.Text.NormalTable
/-!
Normal forms: characters taken apart into letters and marks, the marks behind a letter put in order,
and the parts put together again.
-/
set_option autoImplicit false

namespace ApiStencil.Text.Normal

/-- The entry of `n` in a table sorted by its first part. -/
def find? {α : Type} (key : α → Nat) (table : Array α) (n : Nat) : Option α :=
  go table.size 0 table.size
where
  go : Nat → Nat → Nat → Option α
    | 0, _, _ => none
    | fuel + 1, lo, hi =>
      if lo < hi then
        match table[(lo + hi) / 2]? with
        | none => none
        | some entry =>
          if n < key entry then go fuel lo ((lo + hi) / 2)
          else if key entry < n then go fuel ((lo + hi) / 2 + 1) hi
          else some entry
      else none

/-- The class of a mark; zero for anything else. -/
def classOf (n : Nat) : Nat :=
  if n < 0x300 then 0
  else ((Table.markClass.find? fun (lo, hi, _) => lo ≤ n && n ≤ hi).map fun (_, _, c) => c).getD 0

def isSyllable (n : Nat) : Bool := 0xac00 ≤ n && n < 0xac00 + 11172

/-- The letters of a Hangul syllable. -/
def syllableParts (n : Nat) : List Nat :=
  let i := n - 0xac00
  let first := [0x1100 + i / 588, 0x1161 + i % 588 / 28]
  if i % 28 == 0 then first else first ++ [0x11a7 + i % 28]

/-- What a character stands for, in one step; `wide` also takes away differences of form. -/
def parts? (wide : Bool) (n : Nat) : Option (List Nat) :=
  if n < 0xa0 then none
  else if isSyllable n then some (syllableParts n)
  else
    let pair := fun (x : Nat × Nat × Nat) => [x.2.1, x.2.2]
    ((find? (·.1) Table.composed n).map pair) <|> ((find? (·.1) Table.decomposedOnly n).map pair) <|>
      ((find? (·.1) Table.sameAs n).map fun x => [x.2]) <|>
      (if wide then
        if 0xff01 ≤ n && n ≤ 0xff5e then some [n - 0xfee0] else (find? (·.1) Table.means n).map (·.2)
      else none)

def takeApart (wide : Bool) : Nat → Nat → List Nat
  | 0, n => [n]
  | fuel + 1, n =>
    if isSyllable n then syllableParts n
    else
      match parts? wide n with
      | some parts => parts.flatMap (takeApart wide fuel)
      | none => [n]

/-- Marks in the order of their classes, each group between two letters for itself. -/
def orderMarks : Nat → List Nat → List Nat
  | 0, ns => ns
  | _, [] => []
  | fuel + 1, n :: rest =>
    if classOf n == 0 then n :: orderMarks fuel rest
    else
      let marks := (n :: rest).takeWhile fun m => classOf m != 0
      let after := (n :: rest).dropWhile fun m => classOf m != 0
      marks.mergeSort (fun a b => classOf a ≤ classOf b) ++ orderMarks fuel after

def decompose (wide : Bool) (ns : List Nat) : List Nat :=
  if ns.all (· < 0xa0) then ns
  else
    let apart := ns.flatMap (takeApart wide 20)
    orderMarks apart.length apart

/-- The character that two make together. -/
def pair? (a b : Nat) : Option Nat :=
  if 0x1100 ≤ a && a < 0x1113 && 0x1161 ≤ b && b < 0x1176 then
    some (0xac00 + ((a - 0x1100) * 21 + (b - 0x1161)) * 28)
  else if isSyllable a && (a - 0xac00) % 28 == 0 && 0x11a8 ≤ b && b < 0x11c3 then some (a + (b - 0x11a7))
  else (Table.composed.find? fun (_, x, y) => x == a && y == b).map (·.1)

/-- Puts parts together: `letter` is the last letter, `marks` what stands behind it, nearest first. -/
def join : List Nat → Option Nat → List Nat → List Nat → List Nat
  | [], letter, marks, acc => acc.reverse ++ letter.toList ++ marks.reverse
  | n :: rest, letter, marks, acc =>
    let class_ := classOf n
    let blocked := match marks with
      | [] => false
      | m :: _ => classOf m ≥ class_
    match letter with
    | some l =>
      match if blocked then none else pair? l n with
      | some made => join rest (some made) marks acc
      | none =>
        if class_ == 0 then join rest (some n) [] (marks ++ l :: acc)
        else join rest letter (n :: marks) acc
    | none => if class_ == 0 then join rest (some n) [] (marks ++ acc) else join rest none (n :: marks) acc

def compose (ns : List Nat) : List Nat :=
  if ns.all (· < 0x300) then ns else join ns none [] []

end ApiStencil.Text.Normal
