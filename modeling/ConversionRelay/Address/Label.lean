import ConversionRelay.Address.LabelTable
import ConversionRelay.Address.Punycode
import ConversionRelay.Text.Composition
import ConversionRelay.Text.Pieces
import ConversionRelay.Text.Quoted
import ConversionRelay.Text.ScriptTable
/-!
The labels that the name of a host consists of.

A label may be in any script, but every name has a spelling in ASCII, and there is only one label
for each spelling. So a label has to be in composed form, it may hold letters in lower case, digits
and marks only, and a few more characters where their surroundings call for them; and letters that
are written from right to left do not stand beside others.

Main statement: a label that is allowed does not begin or end with a hyphen
(`not_hyphen_of_isLabel`).
-/
namespace ConversionRelay.Address

open Text

/-- A hyphen. -/
def hyphen : CodePoint := '-'

section Direction

/-- The directions of characters. -/
inductive Direction where
  | left
  | right
  | arabicNumber
  | europeanNumber
  | neutral
  /-- A mark has the direction of the character it belongs to. -/
  | mark
  deriving DecidableEq, Repr

/-- The direction of a character. -/
def directionOf (c : CodePoint) : Direction :=
  if inRanges nonspacingMarks c.code then .mark
  else if inRanges rightToLeft c.code then .right
  else if inRanges arabicNumbers c.code then .arabicNumber
  else if inRanges europeanNumbers c.code then .europeanNumber
  else if inRanges neutrals c.code then .neutral
  else .left

/-- Whether a direction makes the rule for writing from right to left apply. -/
def Direction.isReversed (direction : Direction) : Bool :=
  direction = .right || direction = .arabicNumber

/-- Whether the directions of a label go together: if some are reversed, the label begins with a
letter from right to left, has none from left to right, ends with a letter or a digit, and keeps to
one kind of digits. -/
def agree (directions : List Direction) : Bool :=
  if directions.any Direction.isReversed then
    let last := directions.reverse.find? (· ≠ .mark)
    directions.head? = some .right && !directions.contains .left &&
      [some .right, some .arabicNumber, some .europeanNumber].contains last &&
      !(directions.contains .arabicNumber && directions.contains .europeanNumber)
  else true

end Direction

section Joiners

/-- Nonspacing marks that letters do not join across. -/
def joiningMarks : List (Nat × Nat) := [(0x1171e, 0x1171e)]

/-- Other characters that letters join across. -/
def otherTransparent : List (Nat × Nat) := [
  (0xcbf, 0xcbf), (0xcc6, 0xcc6), (0x11a07, 0x11a08), (0x11c3f, 0x11c3f), (0x1e94b, 0x1e94b)]

/-- Whether letters join across a character. -/
def isTransparent (c : CodePoint) : Bool :=
  inRanges otherTransparent c.code ||
    (inRanges nonspacingMarks c.code && !inRanges joiningMarks c.code)

/-- Whether a character joins the one after it. -/
def joinsNext (c : CodePoint) : Bool :=
  inRanges dualJoining c.code || inRanges leftJoining c.code

/-- Whether a character joins the one before it. -/
def joinsPrevious (c : CodePoint) : Bool :=
  inRanges dualJoining c.code || inRanges rightJoining c.code

/-- The class of the marks that cut a vowel off. -/
def viramaClass : Nat := 9

/-- Whether the nearest character of a text cuts a vowel off. -/
def beginsWithVirama (s : Text) : Bool :=
  match s with
  | [] => false
  | c :: _ => combiningClass c = viramaClass

/-- Whether a property holds of the nearest character that is not transparent. -/
def meets (property : CodePoint → Bool) (s : Text) : Bool :=
  match s.dropWhile isTransparent with
  | [] => false
  | c :: _ => property c

/-- Whether a character that keeps letters apart has a place between two texts, the first of which
is given backwards: after a virama, or between two letters that join. -/
def mayKeepApart (before after : Text) : Bool :=
  beginsWithVirama before || (meets joinsNext before && meets joinsPrevious after)

end Joiners

section Surroundings

/-- Whether the nearest character of a text belongs to a script. -/
def isNext (script : List (Nat × Nat)) (s : Text) : Bool :=
  match s with
  | [] => false
  | c :: _ => inRanges script c.code

/-- The small letter that a middle dot stands between. -/
def smallL : List (Nat × Nat) := [(0x6c, 0x6c)]

/-- The scripts that a middle dot of Japanese stands in. -/
def japanese : List (Nat × Nat) := hiragana ++ katakana ++ han

/-- A middle dot of Japanese. -/
def japaneseDot : CodePoint := .ofCode 0x30fb

/-- The two ranges of Arabic digits. -/
def arabicDigits : List (Nat × Nat) := [(0x660, 0x669)]

/-- The digits of Arabic as Persian writes them. -/
def persianDigits : List (Nat × Nat) := [(0x6f0, 0x6f9)]

/-- Whether a text holds a character of some ranges. -/
def holds (ranges : List (Nat × Nat)) (s : Text) : Bool := s.any fun c => inRanges ranges c.code

/-- Whether the surroundings of a character, of which those before it are given backwards, call for
it. -/
def isCalledFor (label before : Text) (c : CodePoint) (after : Text) : Bool :=
  if c.code = 0x200c then mayKeepApart before after
  else if c.code = 0x200d then beginsWithVirama before
  else if c.code = 0xb7 then isNext smallL before && isNext smallL after
  else if c.code = 0x375 then isNext greek after
  else if c.code = 0x5f3 ∨ c.code = 0x5f4 then isNext hebrew before
  else if c = japaneseDot then holds japanese (label.filter (· ≠ japaneseDot))
  else if inRanges arabicDigits c.code then !holds persianDigits label
  else if inRanges persianDigits c.code then !holds arabicDigits label
  else false

/-- Whether a character may stand in any label. -/
def isLabelChar (c : CodePoint) : Bool :=
  isPrintable c && labelRanges.any fun range =>
    range.1 ≤ c.code && c.code ≤ range.2.1 && (c.code - range.1) % range.2.2 = 0

/-- Whether the rest of a label may follow what stands before it, which is given backwards. -/
def isAllowed (label : Text) : (before : Text) → Text → Bool
  | _, [] => true
  | before, c :: after =>
    (isLabelChar c || isCalledFor label before c after) && isAllowed label (c :: before) after

end Surroundings

/-- Whether a character is a combining mark. -/
def isMark (c : CodePoint) : Bool :=
  inRanges nonspacingMarks c.code || inRanges spacingMarks c.code

/-- The most characters that a name may have, a dot at its end included. -/
def longestName : Nat := 254

/-- Whether a text is allowed as a label. -/
def isLabel (s : Text) : Bool :=
  match s with
  | [] => false
  | first :: _ =>
    s.length ≤ longestName && (s.drop 2).take 2 ≠ "--" && first ≠ hyphen &&
      s.getLast? ≠ some hyphen && !isMark first && isAllowed s [] s &&
      agree (s.map directionOf) && composed s = s

/-- What a label that is not in ASCII begins with in its spelling. -/
def spellingMark : Text := "xn--"

/-- The most characters that the spelling of a label may have. -/
def longestLabel : Nat := 63

/-- The spelling of a label in ASCII, if it is allowed. A label that already is a spelling has to
spell something that is allowed. -/
def spelling? (label : Text) : Option Text :=
  let found : Option Text :=
    if label.all CodePoint.isAscii then
      let plain := label.map CodePoint.plainLower
      if Text.startsWith plain spellingMark then
        let spelled := plain.drop spellingMark.length
        if spelled.isEmpty || spelled.getLast? = some hyphen then none
        else (Punycode.decode? spelled).bind fun s => if isLabel s then some label else none
      else if isLabel plain then some label
      else none
    else if isLabel label then some (spellingMark ++ Punycode.encode label)
    else none
  found.bind fun s => if s.length ≤ longestLabel then some s else none

/-- A label that is allowed does not begin or end with a hyphen. -/
theorem not_hyphen_of_isLabel {s : Text} (h : isLabel s = true) :
    s.head? ≠ some hyphen ∧ s.getLast? ≠ some hyphen := by
  cases s with
  | nil => simp [isLabel] at h
  | cons first rest =>
    simp only [isLabel, Bool.and_eq_true, decide_eq_true_eq] at h
    exact ⟨by simpa using h.1.1.1.1.1.2, h.1.1.1.1.2⟩

end ConversionRelay.Address
