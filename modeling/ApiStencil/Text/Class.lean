import ApiStencil.Text.LetterTable
import ApiStencil.Text.MarkTable
/-!
Character classes. ASCII is decided without the tables; beyond it membership is that of the
standard's tables.
-/
set_option autoImplicit false

namespace ApiStencil.Text

/-- Property White_Space. -/
def isBlank (c : Char) : Bool :=
  c == ' ' || ('\t' ≤ c && c ≤ '\r') || c == '\u0085' || c == '\u00a0' || c == '\u1680' ||
  ('\u2000' ≤ c && c ≤ '\u200a') || c == '\u2028' || c == '\u2029' || c == '\u202f' ||
  c == '\u205f' || c == '\u3000'

theorem isBlank_of_isWhitespace (c : Char) (h : c.isWhitespace = true) : isBlank c = true := by
  simp only [Char.isWhitespace, Bool.or_eq_true, decide_eq_true_eq] at h
  rcases h with ((rfl | rfl) | rfl) | rfl <;> decide

def isAlphabetic (c : Char) : Bool :=
  if c.toNat < 128 then c.isAlpha else Span.member Table.alphabetic c

def isNumeric (c : Char) : Bool :=
  if c.toNat < 128 then c.isDigit else Span.member Table.numeric c

def isAlphanumeric (c : Char) : Bool :=
  isAlphabetic c || isNumeric c

def isUpper (c : Char) : Bool :=
  if c.toNat < 128 then c.isUpper else Span.member Table.uppercase c

def isLower (c : Char) : Bool :=
  if c.toNat < 128 then c.isLower else Span.member Table.lowercase c

def isDecimalDigit (c : Char) : Bool :=
  if c.toNat < 128 then c.isDigit else Span.member Table.decimalDigit c

def isMark (c : Char) : Bool :=
  c.toNat ≥ 128 && Span.member Table.mark c

def isControl (c : Char) : Bool :=
  c.toNat < 32 || (127 ≤ c.toNat && c.toNat < 160)

/-- A character of a word: alphabetic, a mark, a decimal digit, a connector or a join control. -/
def isWord (c : Char) : Bool :=
  if c.toNat < 128 then c.isAlphanum || c == '_'
  else isAlphabetic c || isMark c || isDecimalDigit c || Span.member Table.connector c ||
    c == '\u200c' || c == '\u200d'

/-- Circled and squared letters are alphabetic but are symbols, not letters. -/
def isLetterSymbol (c : Char) : Bool :=
  let n := c.toNat
  (0x24b6 ≤ n && n ≤ 0x24e9) || (0x1f130 ≤ n && n ≤ 0x1f189)

def isLetterNumber (c : Char) : Bool :=
  isAlphabetic c && isNumeric c

/-- General category L. -/
def isLetter (c : Char) : Bool :=
  isAlphabetic c && !isMark c && !isNumeric c && !isLetterSymbol c

def isIdentifierStart (c : Char) : Bool :=
  isLetter c || isLetterNumber c

def isIdentifierPart (c : Char) : Bool :=
  isIdentifierStart c || isMark c || isDecimalDigit c || Span.member Table.connector c ||
    c == '_' || c == '·'

end ApiStencil.Text
