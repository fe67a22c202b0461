import ApiStencil.Decimal.Read
import ApiStencil.Text.Trim
/-!
What a plain scalar stands for: nothing, a truth value, a number, or its own text.
-/
set_option autoImplicit false

namespace ApiStencil.Yaml

inductive Plain where
  | null
  | bool (value : Bool)
  | int (value : Int)
  | float (value : Float)
  | text

/-- Leading zeros before more digits make a text, not a number. -/
def digitsButNoNumber (cs : List Char) : Bool :=
  let cs := match cs with
    | '-' :: rest | '+' :: rest => rest
    | cs => cs
  match cs with
  | '0' :: rest => !rest.isEmpty && rest.all Char.isDigit
  | _ => false

/-- The sign of a number and what follows it; only one sign may stand. -/
def unsigned (cs : List Char) : Bool × List Char :=
  match cs with
  | '-' :: rest => (true, rest)
  | '+' :: rest => (false, rest)
  | cs => (false, cs)

def magnitude? (cs : List Char) : Option Nat :=
  match cs with
  | '0' :: 'x' :: rest => Decimal.ofBase? 16 rest
  | '0' :: 'o' :: rest => Decimal.ofBase? 8 rest
  | '0' :: 'b' :: rest => Decimal.ofBase? 2 rest
  | cs => Decimal.ofBase? 10 cs

/-- An integer of at most 128 bits. -/
def int? (cs : List Char) : Option Int :=
  let (negative, rest) := unsigned cs
  if digitsButNoNumber cs then none
  else (magnitude? rest).bind fun n =>
    if negative then (if n ≤ Nat.pow 2 127 then some (-(n : Int)) else none)
    else if n < Nat.pow 2 128 then some n else none

def float? (s : String) : Option Float :=
  let cs := s.toList
  let positive := match cs with
    | '+' :: rest => rest
    | cs => cs
  if [".inf", ".Inf", ".INF"].contains (String.ofList positive) then some (1.0 / 0.0)
  else if ["-.inf", "-.Inf", "-.INF"].contains s then some (-1.0 / 0.0)
  else if [".nan", ".NaN", ".NAN"].contains s then some (0.0 / 0.0)
  else if cs.length != positive.length && (positive.head? == some '-' || positive.head? == some '+') then none
  else (Decimal.float? positive).bind fun x => if x.isFinite then some x else none

def resolve (s : String) : Plain :=
  if s.isEmpty || ["null", "Null", "NULL", "~"].contains s then .null
  else if ["true", "True", "TRUE"].contains s then .bool true
  else if ["false", "False", "FALSE"].contains s then .bool false
  else match int? s.toList with
    | some n => .int n
    | none =>
      if digitsButNoNumber s.toList then .text
      else match float? s with
        | some x => .float x
        | none => .text

end ApiStencil.Yaml
