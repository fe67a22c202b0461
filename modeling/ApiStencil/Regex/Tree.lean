import ApiStencil.Text.Case
/-!
Patterns as trees over symbols, which are code points or code units. A set of symbols is itself a
small expression, so that what it holds can be read off its form.
-/
set_option autoImplicit false

namespace ApiStencil
namespace Regex

inductive Property where
  | digit
  | blank
  | word
  | alphabetic
  | letter
  | upper
  | lower
  | mark
  | number
  | punctuation
  | symbol
  | control
  | greek
  | cyrillic
  | latin
  | han
  | hiragana
  | katakana
  | identifierStart
  | identifierPart
  deriving DecidableEq

def Property.ofChar (p : Property) (c : Char) : Bool :=
  match p with
  | .digit => Text.isDecimalDigit c
  | .blank => Text.isBlank c
  | .word => Text.isWord c
  | .alphabetic => Text.isAlphabetic c
  | .letter => Text.isLetter c
  | .upper => Text.isUpper c
  | .lower => Text.isLower c
  | .mark => Text.isMark c
  | .number => Text.isNumeric c
  | .punctuation => Text.Span.member Text.Table.punctuation c
  | .symbol => Text.Span.member Text.Table.symbol c
  | .control => Text.isControl c
  | .greek => Text.Span.member Text.Table.greek c
  | .cyrillic => Text.Span.member Text.Table.cyrillic c
  | .latin => Text.Span.member Text.Table.latin c
  | .han => Text.Span.member Text.Table.han c
  | .hiragana => Text.Span.member Text.Table.hiragana c
  | .katakana => Text.Span.member Text.Table.katakana c
  | .identifierStart => Text.isIdentifierStart c
  | .identifierPart => Text.isIdentifierPart c

def Property.holds (p : Property) (n : Nat) : Bool :=
  n.isValidChar && p.ofChar (Char.ofNat n)

inductive CharSet where
  | none
  | span (lo hi : Nat)
  | property (p : Property)
  | union (a b : CharSet)
  | inter (a b : CharSet)
  | negate (a : CharSet)

def CharSet.holds : CharSet → Nat → Bool
  | .none, _ => false
  | .span lo hi, n => lo ≤ n && n ≤ hi
  | .property p, n => p.holds n
  | .union a b, n => a.holds n || b.holds n
  | .inter a b, n => a.holds n && b.holds n
  | .negate a, n => !a.holds n

def CharSet.char (c : Char) : CharSet := .span c.toNat c.toNat

def CharSet.spans (xs : List (Nat × Nat)) : CharSet :=
  xs.foldl (fun acc x => .union acc (.span x.1 x.2)) .none

/-- Symbols that differ from `n` in case alone. -/
def caseVariants (n : Nat) : List Nat :=
  if !n.isValidChar then [n]
  else
    let c := Char.ofNat n
    let single := fun cs : List Char => match cs with
      | [d] => [d.toNat]
      | _ => []
    n :: single (Text.lowerOf c) ++ single (Text.upperOf c) ++ [(Text.foldOf c).toNat]

/-- Membership without regard to case; a negated set leaves out every variant of its members. -/
def CharSet.holdsFolded : CharSet → Nat → Bool
  | .none, _ => false
  | .span lo hi, n =>
    (caseVariants n).any (fun m => lo ≤ m && m ≤ hi) ||
      (lo == hi && (caseVariants lo).any (caseVariants n).contains)
  | .property p, n => (caseVariants n).any p.holds
  | .union a b, n => a.holdsFolded n || b.holdsFolded n
  | .inter a b, n => a.holdsFolded n && b.holdsFolded n
  | .negate a, n => !a.holdsFolded n

/-- Conditions on a position. -/
inductive Place where
  | textStart
  | textEnd
  | lineStart
  | lineEnd
  | wordEdge
  | notWordEdge
  | wordStart
  | wordEnd
  | afterNonWord
  | beforeNonWord
  deriving DecidableEq

inductive Node where
  | empty
  | set (members : CharSet) (fold : Bool)
  | place (at_ : Place)
  | seq (first second : Node)
  | alt (first second : Node)
  | rep (body : Node) (least : Nat) (most : Option Nat) (greedy : Bool)
  | group (index : Nat) (body : Node)
  | back (index : Nat) (fold : Bool)
  | look (ahead negated : Bool) (body : Node)

/-- The numbers of the groups inside. -/
def Node.groups : Node → List Nat
  | .empty | .set _ _ | .place _ | .back _ _ => []
  | .seq a b | .alt a b => a.groups ++ b.groups
  | .rep body _ _ _ => body.groups
  | .group i body => i :: body.groups
  | .look _ _ body => body.groups

/-- What differs from one family of patterns to another. -/
structure Rules where
  isWord : Nat → Bool
  isLineEnd : Nat → Bool
  /-- Each round of a repetition forgets the groups of the round before. -/
  forgets : Bool
  /-- A round that consumes nothing does not count as a match. -/
  refusesEmpty : Bool

end Regex

/-- A pattern ready to be matched. -/
structure Regex where
  root : Regex.Node
  groupCount : Nat
  names : List (String × Nat)
  rules : Regex.Rules

end ApiStencil
