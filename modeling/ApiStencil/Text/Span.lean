/-!
Sets of code points as sorted, disjoint spans. `Span.find?` looks a code point up by bisection, and
a `Shift` moves every member of its span by one distance.
-/
set_option autoImplicit false

namespace ApiStencil.Text

/-- The code points `lo`, `lo + step`, up to `hi`. -/
structure Span where
  lo : Nat
  hi : Nat
  step : Nat

/-- A span whose members are mapped to code points `distance` away. -/
structure Shift where
  span : Span
  distance : Int

def Span.contains (s : Span) (c : Nat) : Bool :=
  s.lo ≤ c && c ≤ s.hi && (c - s.lo) % s.step == 0

/-- The entry whose span holds `c`, in a table sorted by span. -/
def bisect? {α : Type} (span : α → Span) (table : Array α) (c : Nat) : Option α :=
  go table.size 0 table.size
where
  go : Nat → Nat → Nat → Option α
    | 0, _, _ => none
    | fuel + 1, lo, hi =>
      if lo < hi then
        let mid := (lo + hi) / 2
        match table[mid]? with
        | none => none
        | some entry =>
          if c < (span entry).lo then go fuel lo mid
          else if (span entry).hi < c then go fuel (mid + 1) hi
          else if (span entry).contains c then some entry
          else none
      else none

def Span.member (table : Array Span) (c : Char) : Bool :=
  (bisect? id table c.toNat).isSome

end ApiStencil.Text
