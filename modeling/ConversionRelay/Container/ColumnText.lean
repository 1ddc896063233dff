import ConversionRelay.Container.Column
import ConversionRelay.Text.Table
import ConversionRelay.Value.Text
/-!
Columns of document values as cells for reading.

How a value is shown depends on the representation of its column. Binary numbers have the same
number of places in all of a column, six at most, or an exponent if the column has a number that six
places cannot show or that is too wide. Where a column has no representation of its own, each value
is shown for itself, and lists and objects are shown down to a few levels.

Main statement: a column has as many cells as values (`Column.length_cells`).
-/
namespace ConversionRelay.Column

/-- The mark of a gap. -/
def gapMark : Text := "NaN"

section Numbers

/-- The most places that are shown of a number. -/
def mostPlaces : Nat := 6

/-- The widest number that is shown without an exponent if it is great, too. -/
def widestNumber : Nat := 12

/-- A number above which an exponent is worth while. -/
def greatNumber : Nat := 1000000

/-- The least number that all places show. -/
def leastShown : Binary64 := Binary64.ofDecimal false 1 (-6)

/-- The digit that is trimmed from the end of a number. -/
def zeroDigit : CodePoint := '0'

/-- The number of zeros at the end of a text. -/
def trailingZeros (s : Text) : Nat := (s.reverse.takeWhile (· == zeroDigit)).length

/-- A text without some characters at its end. -/
def dropEnd (s : Text) (count : Nat) : Text := s.take (s.length - count)

/-- A number that is not finite. -/
def specialText (x : Binary64) : Text :=
  if x.isNaN then gapMark else x.signText ++ Value.numberStyle.infinite

/-- A finite number in some way, and any other number by its name. -/
def writeWith (write : Binary64 → Text) (x : Binary64) : Text :=
  if x.isFinite then write x else specialText x

/-- How many places can be left out of all finite numbers, of which one has to stay. -/
def sparePlaces (numbers : List Binary64) : Nat :=
  ((numbers.filter Binary64.isFinite).map fun x => trailingZeros (x.fixed mostPlaces)).foldl min
    (mostPlaces - 1)

/-- Numbers with equally many places, as few as possible. -/
def fixedTexts (numbers : List Binary64) : List Text :=
  let spare := sparePlaces numbers
  numbers.map (writeWith fun x => dropEnd (x.fixed mostPlaces) spare)

/-- Whether a number is too small for its places. -/
def isTiny (x : Binary64) : Bool :=
  x.isFinite && !x.isZero && leastShown.exceeds x.ratio.1 x.ratio.2

/-- Whether numbers that have been written with a point need exponents instead. -/
def needExponents (numbers : List Binary64) (written : List Text) : Bool :=
  numbers.any isTiny ||
    (written.any (fun s => widestNumber < s.length) &&
      numbers.any fun x => x.exceeds greatNumber 1)

/-- The texts of the numbers of a column. -/
def numberTexts (numbers : List Binary64) : List Text :=
  let written := fixedTexts numbers
  if needExponents numbers written then
    numbers.map (writeWith (Binary64.scientific mostPlaces))
  else written

/-- Every number has a text. -/
@[simp] theorem length_numberTexts (numbers : List Binary64) :
    (numberTexts numbers).length = numbers.length := by
  simp only [numberTexts]
  split <;> simp [fixedTexts]

/-- A number with as few places as possible, but one at least. -/
def looseNumber (x : Binary64) : Text :=
  if x.isFinite then
    let written := x.fixed mostPlaces
    dropEnd written (min (mostPlaces - 1) (trailingZeros written))
  else (Value.double x).text

end Numbers

section Values

/-- How many collections inside each other are shown item by item. -/
def shownLevels : Nat := 3

/-- How many items of a collection are shown. -/
def shownItemCount : Nat := 100

/-- The items of a collection, as many as are shown, with commas between. -/
def listing (items : List Text) : Text :=
  Text.join ", " (items.take shownItemCount) ++
    (if shownItemCount < items.length then ", ..." else "")

/-- A text inside an object stands between quotes as it is. -/
def innerText (inObject : Bool) (s : Text) : Text := if inObject then "'" ++ s ++ "'" else s

mutual
/-- A value at a level of nesting, inside an object or not. -/
def shown (inObject : Bool) (level : Nat) : Value → Text
  | .string s => innerText inObject (if inObject then s else Text.cell s)
  | .array items =>
    if level < shownLevels then "[" ++ listing (shownItems inObject (level + 1) items) ++ "]"
    else Value.literal (.array items)
  | .object fields =>
    if level < shownLevels then
      "\x7b" ++ listing (shownFields (level + 1) fields) ++ "\x7d"
    else Value.literal (.object fields)
  | other => other.literal

/-- The items of a list; numbers among them have few places and count as texts. -/
def shownItems (inObject : Bool) (level : Nat) : List Value → List Text
  | [] => []
  | .double x :: rest =>
    innerText inObject (looseNumber x) :: shownItems inObject level rest
  | v :: rest => shown inObject level v :: shownItems inObject level rest

/-- The fields of an object. -/
def shownFields (level : Nat) : List (Text × Value) → List Text
  | [] => []
  | (key, v) :: rest =>
    (innerText true key ++ ": " ++ shown true level v) :: shownFields level rest
end

/-- A number that stands for itself, with a blank in place of the minus of a negative one. -/
def ownNumber (x : Binary64) : Text :=
  if x.isNaN then gapMark else (if x.negative then "" else " ") ++ looseNumber x

/-- A value that stands for itself. -/
def ownText : Value → Text
  | .double x => ownNumber x
  | other => shown false 0 other

end Values

/-- The binary number that a value of a column of numbers is represented by; a gap is none. -/
def numberOf : Value → Binary64
  | .double x => x
  | .int n => Binary64.ofInt n
  | _ => Binary64.nan 0

/-- The cells of a column. -/
def cells (column : Column) : List Text :=
  match kind column with
  | .texts => column.map fun v => if isGap v then gapMark else Text.cell v.text
  | .truths => column.map Value.literal
  | .wholes => column.map Value.literal
  | .binaries => numberTexts (column.map numberOf)
  | .mixed => column.map ownText

/-- The heading of a column; a column of numbers has a blank in front of its name. -/
def heading (column : Column) (name : Text) : Text :=
  (if (kind column).isNumeric then " " else "") ++ name

/-- A column has as many cells as values. -/
@[simp] theorem length_cells (column : Column) : (cells column).length = column.length := by
  unfold cells
  split <;> simp

end ConversionRelay.Column
