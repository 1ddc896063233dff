import ConversionRelay.Text.Blank
import ConversionRelay.Text.CaseTable
/-!
Lower-casing of text.

Each character is mapped on its own, with two exceptions: a capital I with a dot above becomes an
i followed by a combining dot, and a capital sigma that ends a word becomes a final sigma. A sigma
ends a word when, past the characters that case ignores, a cased character stands before it and
none stands after it.
-/
namespace ConversionRelay.Text

/-- The lower-case form of a code point, by a table in ascending order. -/
def lowerCode : List CaseRange → Nat → Nat
  | [], n => n
  | range :: rest, n =>
    if n < range.first then n
    else if n ≤ range.last then
      if (n - range.first) % range.stride = 0 then range.target + (n - range.first) else n
    else lowerCode rest n

/-- The lower-case form of a character that has one of a single character. -/
def lowerSingle (c : CodePoint) : CodePoint := .ofCode (lowerCode lowerRanges c.code)

/-- Whether the first character that case does not ignore is cased. -/
def meetsCased (s : Text) : Bool :=
  match s.dropWhile fun c => inRanges caseIgnorable c.code with
  | [] => false
  | c :: _ => inRanges cased c.code

/-- The lower-case form of a character between the text before it, nearest first, and after it. -/
def lowerIn (before : Text) (c : CodePoint) (after : Text) : Text :=
  if c.code = 0x3a3 then
    [if meetsCased before && !meetsCased after then .ofCode 0x3c2 else .ofCode 0x3c3]
  else if c.code = 0x130 then ['i', .ofCode 0x307]
  else [lowerSingle c]

/-- Lower-case a text that follows the given one, whose nearest character comes first. -/
def lowerAfter (before : Text) : Text → Text
  | [] => []
  | c :: after => lowerIn before c after ++ lowerAfter (c :: before) after

theorem lowerAfter_nil (before : Text) : lowerAfter before [] = [] := rfl

theorem lowerAfter_cons (before : Text) (c : CodePoint) (after : Text) :
    lowerAfter before (c :: after) = lowerIn before c after ++ lowerAfter (c :: before) after := rfl

/-- The lower-case form of a text. -/
def lower (s : Text) : Text := lowerAfter [] s

end ConversionRelay.Text
