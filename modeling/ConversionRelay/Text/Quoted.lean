import ConversionRelay.Text.PrintableTable
import ConversionRelay.Text.Blank
/-!
Quoted text, as it appears inside messages and inside the text of lists and objects.

The quote is single unless the text holds a single quote and no double one. A backslash and the
quote are escaped, tab and line breaks have letters of their own, and every other character that is
not printable is spelled by its number in hexadecimal.
-/
namespace ConversionRelay.Text

/-- Whether a character is shown as itself. -/
def isPrintable (c : CodePoint) : Bool := !inRanges unprintable c.code

/-- A digit below sixteen, in lower case. -/
def hexDigit (d : Nat) : CodePoint := .ofCode (if d < 10 then 48 + d else 87 + d)

/-- The lowest `width` hexadecimal digits of a number. -/
def hex : (width : Nat) → Nat → Text
  | 0, _ => []
  | width + 1, n => hex width (n / 16) ++ [hexDigit (n % 16)]

/-- The quote character that a text is written between. -/
def quoteFor (s : Text) : CodePoint :=
  if s.contains '\x27' && !s.contains '\x22' then '\x22' else '\x27'

/-- One character of a quoted text. -/
def quotedChar (quote c : CodePoint) : Text :=
  if c = quote ∨ c = '\\' then ['\\', c]
  else if c = '\t' then ['\\', 't']
  else if c = '\n' then ['\\', 'n']
  else if c = '\r' then ['\\', 'r']
  else if isPrintable c then [c]
  else if c.code < 0x100 then '\\' :: 'x' :: hex 2 c.code
  else if c.code < 0x10000 then '\\' :: 'u' :: hex 4 c.code
  else '\\' :: 'U' :: hex 8 c.code

/-- A text between quotes. -/
def quoted (s : Text) : Text :=
  quoteFor s :: s.flatMap (quotedChar (quoteFor s)) ++ [quoteFor s]

end ConversionRelay.Text
