import TypedScript.Text.NamePart
import TypedScript.Text.NameStart

/-!
Character classes of the language: line breaks, blanks, digits, and the characters names are made of.
-/

namespace TypedScript.Text

def isLineBreak (c : Char) : Bool :=
  c == '\n' || c == '\r' || c == '\u2028' || c == '\u2029'

def isBlank (c : Char) : Bool :=
  c == ' ' || c == '\t' || c == '\x0b' || c == '\x0c' || c == '\u00a0' || c == '\u1680' ||
    (0x2000 ≤ c.toNat && c.toNat ≤ 0x200a) ||
    c == '\u202f' || c == '\u205f' || c == '\u3000' || c == '\ufeff'

def isDigit (c : Char) : Bool := c.isDigit

def hexValue? (c : Char) : Option Nat :=
  if '0' ≤ c && c ≤ '9' then some (c.toNat - 48)
  else if 'a' ≤ c && c ≤ 'f' then some (c.toNat - 87)
  else if 'A' ≤ c && c ≤ 'F' then some (c.toNat - 55)
  else none

def isDigitOf (base : Nat) (c : Char) : Bool :=
  match hexValue? c with
  | some v => v < base
  | none => false

def inRanges (ranges : List (Nat × Nat)) (c : Char) : Bool :=
  ranges.any fun r => r.1 ≤ c.toNat && c.toNat ≤ r.2

def isAscii (c : Char) : Bool := c.toNat < 128

def isNameStart (c : Char) : Bool :=
  c == '_' || c == '$' || c.isAlpha || (!isAscii c && inRanges nameStartRanges c)

def isNamePart (c : Char) : Bool :=
  c == '_' || c == '$' || c.isAlphanum || c == '\u200c' || c == '\u200d' ||
    (!isAscii c && (inRanges nameStartRanges c || inRanges namePartRanges c))

theorem isNamePart_of_isNameStart {c : Char} (h : isNameStart c = true) : isNamePart c = true := by
  simp only [isNameStart, isNamePart, Char.isAlphanum, Bool.or_eq_true, Bool.and_eq_true] at *
  rcases h with ((h | h) | h) | ⟨h, h'⟩ <;> simp [*]

end TypedScript.Text
