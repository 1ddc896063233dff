import ConversionRelay.Number.Decimal
import ConversionRelay.Text.Digit
/-!
Reading numbers from free text.

Free text, such as an environment variable, may write a number with blanks around it, with digits of
any script and with single underscores between digits. The fields of an object are stricter about
digits, which are those of ASCII, but more lenient about underscores, which may stand anywhere but
at the ends and next to each other. Both know the names of infinity and of not-a-number in any case.

Main statement: what is left of a text in a field holds no underscore
(`not_mem_of_withoutUnderscores`).
-/
namespace ConversionRelay.Text

/-- Blanks that may surround a number: the information separators of ASCII are not among them. -/
def isNumeralBlank (c : CodePoint) : Bool := isBlank c && !(0x1c ≤ c.code && c.code ≤ 0x1f)

/-- A text without the blanks around a number. -/
def trimNumeral (s : Text) : Text :=
  ((s.dropWhile isNumeralBlank).reverse.dropWhile isNumeralBlank).reverse

/-- A decimal digit of any script as the digit of ASCII; other characters are kept. -/
def plainDigit (c : CodePoint) : CodePoint :=
  match decimalValue? c with
  | some d => .ofCode (48 + d)
  | none => c

/-- Remove underscores that stand between two digits; nothing if one stands elsewhere. -/
def dropUnderscores : (afterDigit : Bool) → Text → Option Text
  | _, [] => some []
  | afterDigit, c :: rest =>
    if c = '_' then
      match rest with
      | d :: _ => if afterDigit && d.isDigit then dropUnderscores false rest else none
      | [] => none
    else (dropUnderscores c.isDigit rest).map (c :: ·)

/-- The sign at the start of a text: whether it is a minus, and what follows. -/
def takeSign : Text → Bool × Text
  | .char '-' :: rest => (true, rest)
  | .char '+' :: rest => (false, rest)
  | s => (false, s)

/-- The number of a run of digits of ASCII. -/
def plainNatural (s : Text) : Nat := s.foldl (fun acc c => acc * 10 + c.digitValue) 0

/-- The exponent at the start of a text, if the text is nothing else. -/
def readExponent : Text → Option Int
  | [] => some 0
  | c :: rest =>
    if c = 'e' ∨ c = 'E' then
      let signed := takeSign rest
      if signed.2.isEmpty || !signed.2.all CodePoint.isDigit then none
      else some (if signed.1 then -(plainNatural signed.2 : Int) else plainNatural signed.2)
    else none

/-- A number without sign: digits with an optional point, and an optional exponent. -/
def readMagnitude (negative : Bool) (s : Text) : Option Binary64 :=
  let whole := s.takeWhile CodePoint.isDigit
  let afterWhole := s.drop whole.length
  let fraction := match afterWhole with
    | .char '.' :: rest => rest.takeWhile CodePoint.isDigit
    | _ => []
  let afterFraction := match afterWhole with
    | .char '.' :: rest => rest.drop fraction.length
    | other => other
  if whole.isEmpty && fraction.isEmpty then none
  else
    (readExponent afterFraction).map fun exponent =>
      Binary64.ofDecimal negative (plainNatural (whole ++ fraction)) (exponent - fraction.length)

/-- A number with its sign, or one of the names in any case. -/
def readSigned (s : Text) : Option Binary64 :=
  let signed := takeSign s
  let word := signed.2.map CodePoint.plainLower
  if word = "inf" ∨ word = "infinity" then some (Binary64.infinity signed.1)
  else if word = "nan" then some (Binary64.nan 0)
  else readMagnitude signed.1 signed.2

/-- The number that a free text denotes. -/
def readNumber (s : Text) : Option Binary64 :=
  (dropUnderscores false ((trimNumeral s).map plainDigit)).bind readSigned

/-- Whether two underscores stand next to each other. -/
def hasDoubleUnderscore : Text → Bool
  | .char '_' :: .char '_' :: _ => true
  | _ :: rest => hasDoubleUnderscore rest
  | [] => false

/-- A text without its underscores; nothing if one stands at an end or next to another, or if there
is none. -/
def withoutUnderscores (s : Text) : Option Text :=
  if s.head? = some '_' ∨ s.getLast? = some '_' ∨ hasDoubleUnderscore s ∨ !s.contains '_' then none
  else some (s.filter (· ≠ '_'))

/-- The number that a text in a field denotes. Blanks around it and underscores exclude each
other. -/
def readStrictNumber (s : Text) : Option Binary64 :=
  (readSigned (trimNumeral s)).orElse fun _ => (withoutUnderscores s).bind readSigned

/-- The most digits that a whole number may have where one is read. -/
def digitLimit : Nat := 4300

/-- What is said of a whole number with too many digits. -/
def tooManyDigitsMessage (count : Nat) : Text :=
  "Exceeds the limit (" ++ Decimal.ofNat digitLimit ++
    " digits) for integer string conversion: value has " ++ Decimal.ofNat count ++
    " digits; use sys.set_int_max_str_digits() to increase the limit"

/-- Whether a free text denotes a whole number. -/
def isWholeNumber (s : Text) : Bool :=
  match dropUnderscores false (takeSign ((trimNumeral s).map plainDigit)).2 with
  | some digits =>
    !digits.isEmpty && digits.all CodePoint.isDigit && digits.length ≤ digitLimit
  | none => false

/-- What is left without underscores holds none. -/
theorem not_mem_of_withoutUnderscores {s t : Text} (h : withoutUnderscores s = some t) :
    CodePoint.char '_' ∉ t := by
  unfold withoutUnderscores at h
  split at h
  · cases h
  · cases h
    simp

end ConversionRelay.Text
