import TableSync.Text.Blank
import TableSync.Text.Digit

/-!
# Numerals

What a text looks like where a number is read from it.  Digits of every script count as the ASCII
ones, and blanks beyond ASCII as spaces; what is neither cannot be part of a number, and nothing
behind it is looked at.  Around a number only the ASCII blanks are skipped, which do not include
the information separators.
-/

namespace TableSync.Text

/-- The blanks that may stand around a number. -/
def isNumeralBlank (c : Char) : Bool :=
  c = ' ' || ('\t' ≤ c && c ≤ '\r')

/-- What a character counts as in a number, if it can be part of one. -/
def numeralChar? (c : Char) : Option Char :=
  if c.toNat < 0x7F then some c
  else if isBlank c then some ' '
  else (digitValue? c).map fun d => Char.ofNat ('0'.toNat + d)

/-- A text as it is looked at in reading a number, in ASCII. -/
def numeral : Text → List Char
  | [] => []
  | p :: rest =>
      match p.char?.bind numeralChar? with
      | some c => c :: numeral rest
      | none => ['?']

end TableSync.Text
