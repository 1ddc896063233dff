import ConversionRelay.Text.Numeral
/-!
Why a JSON text cannot be read.

A text may be malformed, and then the place where it is tells more. A reader knows how much of the
text was left when it stopped; from that the offset, the line and the column follow. Offsets count
code points from zero, lines and columns from one. A well-formed text may still be nested too deep
or hold a whole number with too many digits; either is found where it stands, before anything that
is wrong behind it.
-/
namespace ConversionRelay.Json

/-- What is wrong with a malformed text. -/
inductive Problem where
  | expectingValue
  | expectingKey
  | expectingColon
  | expectingComma
  | extraData
  | unterminatedString
  | controlCharacter
  | badEscape
  | badHexEscape
  | byteOrderMark
  deriving DecidableEq, Repr

/-- The wording of a problem. -/
def Problem.message : Problem → Text
  | expectingValue => "Expecting value"
  | expectingKey => "Expecting property name enclosed in double quotes"
  | expectingColon => "Expecting ':' delimiter"
  | expectingComma => "Expecting ',' delimiter"
  | extraData => "Extra data"
  | unterminatedString => "Unterminated string starting at"
  | controlCharacter => "Invalid control character at"
  | badEscape => "Invalid \\escape"
  | badHexEscape => "Invalid \\uXXXX escape"
  | byteOrderMark => "Unexpected UTF-8 BOM (decode using utf-8-sig)"

/-- A problem together with the number of code points that were left where it lies. -/
structure Failure where
  problem : Problem
  remaining : Nat
  deriving DecidableEq, Repr

/-- The values that hold other values. -/
inductive Collection where
  | array
  | object
  deriving DecidableEq, Repr

/-- The name of a kind of collection. -/
def Collection.name : Collection → Text
  | array => "array"
  | object => "object"

/-- Why a reader stops. -/
inductive Refusal where
  | malformed (failure : Failure)
  /-- A collection lies inside too many others. -/
  | tooDeep (collection : Collection)
  /-- A whole number has too many digits, which are counted. -/
  | tooManyDigits (count : Nat)
  deriving DecidableEq, Repr

/-- A problem at a place of a text. -/
structure ParseError where
  problem : Problem
  line : Nat
  column : Nat
  offset : Nat
  deriving DecidableEq, Repr

/-- The line break that lines are counted by. -/
def lineFeed : CodePoint := '\n'

/-- The place of a failure in the text it came from. -/
def Failure.locate (text : Text) (failure : Failure) : ParseError :=
  let before := text.take (text.length - failure.remaining)
  { problem := failure.problem
    line := before.count lineFeed + 1
    column := (before.reverse.takeWhile (· != lineFeed)).length + 1
    offset := before.length }

/-- The wording of a problem with its place. -/
def ParseError.message (e : ParseError) : Text :=
  e.problem.message ++ ": line " ++ Decimal.ofNat e.line ++ " column " ++ Decimal.ofNat e.column ++
    " (char " ++ Decimal.ofNat e.offset ++ ")"

/-- Why a text cannot be read. -/
inductive ReadError where
  | malformed (problem : ParseError)
  | tooDeep (collection : Collection)
  | tooManyDigits (count : Nat)
  deriving DecidableEq, Repr

/-- Why a text cannot be read, given why its reader stopped. -/
def Refusal.locate (text : Text) : Refusal → ReadError
  | malformed failure => .malformed (failure.locate text)
  | tooDeep collection => .tooDeep collection
  | tooManyDigits count => .tooManyDigits count

/-- The wording of why a text cannot be read. -/
def ReadError.message : ReadError → Text
  | malformed problem => problem.message
  | tooDeep collection =>
    "maximum recursion depth exceeded while decoding a JSON " ++ collection.name ++
      " from a unicode string"
  | tooManyDigits count => Text.tooManyDigitsMessage count

end ConversionRelay.Json
