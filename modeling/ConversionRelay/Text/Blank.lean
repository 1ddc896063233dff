import ConversionRelay.Text.CodePoint
/-!
Blank characters, and trimming.

The blanks are the white space of every script together with the information separators; a
zero-width space and a byte order mark are not blank.
-/
namespace ConversionRelay.Text

/-- The code points of blank characters. -/
def blanks : List (Nat × Nat) := [
  (0x09, 0x0d), (0x1c, 0x20), (0x85, 0x85), (0xa0, 0xa0), (0x1680, 0x1680), (0x2000, 0x200a),
  (0x2028, 0x2029), (0x202f, 0x202f), (0x205f, 0x205f), (0x3000, 0x3000)]

/-- Whether a number lies in one of the given closed ranges. -/
def inRanges (ranges : List (Nat × Nat)) (n : Nat) : Bool :=
  ranges.any fun range => range.1 ≤ n && n ≤ range.2

/-- Whether a character is blank. -/
def isBlank (c : CodePoint) : Bool := inRanges blanks c.code

/-- The text without the blanks at its start. -/
def trimLeft (s : Text) : Text := s.dropWhile isBlank

/-- The text without the blanks at its end. -/
def trimRight (s : Text) : Text := (trimLeft s.reverse).reverse

/-- The text without the blanks at either end. -/
def trim (s : Text) : Text := trimRight (trimLeft s)

/-- The text without any blank. -/
def removeBlanks (s : Text) : Text := s.filter fun c => !isBlank c

/-- Every white-space character of ASCII is blank. -/
theorem isBlank_of_isWhitespace {c : Char} (h : c.isWhitespace) : isBlank (.char c) := by
  simp only [Char.isWhitespace, Bool.or_eq_true, decide_eq_true_eq] at h
  rcases h with ((rfl | rfl) | rfl) | rfl <;> decide

end ConversionRelay.Text
