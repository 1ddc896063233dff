import ConversionRelay.Text.Blank
import ConversionRelay.Text.DigitTable
/-!
Digits of every script.

A decimal digit has a value and may stand in a number. Other characters, such as superscript and
circled digits, also count as digits but have no place in a decimal number.
-/
namespace ConversionRelay.Text

/-- The value of a decimal digit of any script. -/
def decimalValue? (c : CodePoint) : Option Nat :=
  decimalZeros.findSome? fun start =>
    if start ≤ c.code ∧ c.code < start + 10 then some (c.code - start) else none

/-- Whether a character is a digit of any kind. -/
def isDigit (c : CodePoint) : Bool :=
  (decimalValue? c).isSome || inRanges otherDigits c.code

/-- Whether a text is not empty and consists of digits of any kind. -/
def isDigits (s : Text) : Bool := !s.isEmpty && s.all isDigit

/-- The number that a text of decimal digits denotes. -/
def naturalOf? (s : Text) : Option Nat :=
  s.foldlM (fun acc c => (decimalValue? c).map (acc * 10 + ·)) 0

end ConversionRelay.Text
