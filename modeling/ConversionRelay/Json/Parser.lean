import ConversionRelay.Json.Error
import ConversionRelay.Value
/-!
Reading JSON text.

Blanks are space, tab and the two line breaks. The three names of numbers that are not finite are
accepted as values. A number without fraction and exponent is an integer; any other is the nearest
binary number. Of two fields with one key the first gives the place and the last the value. Half of
a surrogate pair may be escaped on its own; a high half takes a low one right after it along.

How deep values may be nested and how many digits an integer may have is limited. Within the limits
the nesting is bounded by the number of code points as well: every reader of a nested value is given
one step less than the reader around it, and of two such steps one uses up a code point.
-/
namespace ConversionRelay.Json

open Text (plainNatural)

/-- A reader takes a value from the front of a text and returns what is left. -/
abbrev Reading (α : Type) := Except Refusal (α × Text)

/-- What a reader keeps within. -/
structure Limits where
  /-- How many collections may lie inside each other. -/
  nesting : Nat
  /-- How many digits an integer may have. -/
  digits : Nat
  deriving DecidableEq, Repr

/-- The limits of documents. -/
def Limits.standard : Limits := ⟨986, Text.digitLimit⟩

/-- A failure where the given text begins. -/
def failAt {α : Type} (problem : Problem) (s : Text) : Except Refusal α :=
  .error (.malformed ⟨problem, s.length⟩)

/-- A character that may stand between tokens. -/
def isSpace (c : CodePoint) : Bool := c = ' ' || c = '\t' || c = '\n' || c = '\r'

/-- The text after its blanks. -/
def skipSpace (s : Text) : Text := s.dropWhile isSpace

/-- The value of a hexadecimal digit. -/
def hexValue? (c : CodePoint) : Option Nat :=
  if c.isDigit then some c.digitValue
  else if 0x61 ≤ c.code ∧ c.code ≤ 0x66 then some (c.code - 0x57)
  else if 0x41 ≤ c.code ∧ c.code ≤ 0x46 then some (c.code - 0x37)
  else none

/-- The value of four hexadecimal digits at the front of a text. -/
def hexUnit? : Text → Option Nat
  | a :: b :: c :: d :: _ =>
    match hexValue? a, hexValue? b, hexValue? c, hexValue? d with
    | some a, some b, some c, some d => some (((a * 16 + b) * 16 + c) * 16 + d)
    | _, _, _, _ => none
  | _ => none

/-- The character that a pair of surrogates encodes. -/
def ofPair (high low : Nat) : CodePoint :=
  .ofCode (0x10000 + (high - 0xd800) * 0x400 + (low - 0xdc00))

/-- The character of a one-letter escape. -/
def escaped? (c : CodePoint) : Option CodePoint :=
  if c = '\x22' ∨ c = '\\' ∨ c = '/' then some c
  else if c = 'b' then some '\x08'
  else if c = 'f' then some '\x0c'
  else if c = 'n' then some '\n'
  else if c = 'r' then some '\r'
  else if c = 't' then some '\t'
  else none

/-- Why the code points of a string cannot be read. -/
inductive StringFailure where
  /-- The text ends before the string does. Where the string began is known to whoever opened it. -/
  | endless
  | within (failure : Failure)
  deriving DecidableEq, Repr

/-- A failure inside a string, where the given text begins. -/
def failWithin {α : Type} (problem : Problem) (s : Text) : Except StringFailure α :=
  .error (.within ⟨problem, s.length⟩)

/--
A numeric escape, given the text from its letter on: the code point and how many code points of the
text it takes. The four digits have to be followed by something, the closing quote at least; a high
surrogate takes a following escape along if that is a low one.
-/
def readHexEscape (s : Text) : Except StringFailure (CodePoint × Nat) :=
  let next := s.drop 5
  if next.isEmpty then failWithin .badHexEscape s
  else
    match hexUnit? (s.drop 1) with
    | none => failWithin .badHexEscape s
    | some unit =>
      if 0xd800 ≤ unit ∧ unit < 0xdc00 ∧ next.take 2 = "\\u" ∧ !(next.drop 6).isEmpty then
        match hexUnit? (next.drop 2) with
        | none => failWithin .badHexEscape (next.drop 1)
        | some low =>
          if 0xdc00 ≤ low ∧ low < 0xe000 then .ok (ofPair unit low, 11)
          else .ok (.ofCode unit, 5)
      else .ok (.ofCode unit, 5)

/-- The escape whose text after the backslash is given: its code point and how many code points of
the text it takes. A letter that escapes nothing is found where its backslash stands. -/
def readEscape (s : Text) : Except StringFailure (CodePoint × Nat) :=
  match s with
  | [] => .error .endless
  | c :: _ =>
    if c = 'u' then readHexEscape s
    else
      match escaped? c with
      | some e => .ok (e, 1)
      | none => failWithin .badEscape ('\\' :: s)

/-- Put a code point in front of a string that was read. -/
def withFirst (c : CodePoint) :
    Except StringFailure (Text × Text) → Except StringFailure (Text × Text)
  | .ok (cs, rest) => .ok (c :: cs, rest)
  | .error f => .error f

/--
The code points of a string up to its closing quote, and the text after it, after passing over
`skip` code points that an escape has used up already.
-/
def readChars : (skip : Nat) → Text → Except StringFailure (Text × Text)
  | _, [] => .error .endless
  | skip + 1, _ :: rest => readChars skip rest
  | 0, c :: rest =>
    if c = '\x22' then .ok ([], rest)
    else if c = '\\' then
      match readEscape rest with
      | .error f => .error f
      | .ok (e, used) => withFirst e (readChars used rest)
    else if c.code ≤ 0x1f then failWithin .controlCharacter (c :: rest)
    else withFirst c (readChars 0 rest)

/-- A string, given the text after its opening quote. -/
def readString (s : Text) : Reading Text :=
  match readChars 0 s with
  | .ok (cs, rest) => .ok (cs, rest)
  | .error .endless => failAt .unterminatedString ('\x22' :: s)
  | .error (.within f) => .error (.malformed f)

/-- The digits before the point: one zero, or a run that does not begin with one. -/
def takeWhole (s : Text) : Option (Text × Text) :=
  match s with
  | [] => none
  | c :: rest =>
    if c = '0' then some ([c], rest)
    else if c.isDigit then
      some (c :: rest.takeWhile CodePoint.isDigit, rest.dropWhile CodePoint.isDigit)
    else none

/-- The digits after a point, if a digit follows the point. -/
def takeFraction (s : Text) : Option (Text × Text) :=
  match s with
  | .char '.' :: c :: rest =>
    if c.isDigit then
      some (c :: rest.takeWhile CodePoint.isDigit, rest.dropWhile CodePoint.isDigit)
    else none
  | _ => none

/-- The exponent, if its mark is followed by an optional sign and a digit. -/
def takeExponent (s : Text) : Option (Int × Text) :=
  match s with
  | e :: rest =>
    if e = 'e' ∨ e = 'E' then
      let signed := Text.takeSign rest
      let ds := signed.2.takeWhile CodePoint.isDigit
      if ds.isEmpty then none
      else
        some (if signed.1 then -(plainNatural ds : Int) else plainNatural ds,
          signed.2.dropWhile CodePoint.isDigit)
    else none
  | [] => none

/-- The integer of a run of digits, of which there may not be too many. -/
def integerOf (limits : Limits) (negative : Bool) (ds : Text) : Except Refusal Value :=
  if limits.digits < ds.length then .error (.tooManyDigits ds.length)
  else .ok (.int (if negative then -(plainNatural ds : Int) else plainNatural ds))

/-- A number without its sign; the text from its sign on is where it fails. -/
def readUnsigned (limits : Limits) (negative : Bool) (start s : Text) : Reading Value :=
  match takeWhole s with
  | none => failAt .expectingValue start
  | some (whole, afterWhole) =>
    let fraction := takeFraction afterWhole
    let afterFraction := (fraction.map Prod.snd).getD afterWhole
    let exponent := takeExponent afterFraction
    if fraction.isNone && exponent.isNone then
      (integerOf limits negative whole).map (·, afterWhole)
    else
      let places := (fraction.map Prod.fst).getD []
      let power := (exponent.map Prod.fst).getD 0 - places.length
      .ok (.double (Binary64.ofDecimal negative (plainNatural (whole ++ places)) power),
        (exponent.map Prod.snd).getD afterFraction)

/-- A number. -/
def readNumber (limits : Limits) (s : Text) : Reading Value :=
  match s with
  | .char '-' :: rest => readUnsigned limits true s rest
  | _ => readUnsigned limits false s s

/-- The values that are spelled as words. -/
def words : List (Text × Value) := [
  ("null", .null),
  ("true", .bool true),
  ("false", .bool false),
  ("NaN", .double (Binary64.nan 0)),
  ("Infinity", .double (Binary64.infinity false)),
  ("-Infinity", .double (Binary64.infinity true))]

/-- A word at the front of a text, with what follows it. -/
def readWord (s : Text) : Option (Value × Text) :=
  words.findSome? fun word =>
    if word.1.isPrefixOf s then some (word.2, s.drop word.1.length) else none

/-- A value that is neither a string nor nested: a word or a number. -/
def readScalar (limits : Limits) (s : Text) : Reading Value :=
  match readWord s with
  | some r => .ok r
  | none => readNumber limits s

/-- The key of a field and its colon, with the text where the value begins. -/
def readKey (s : Text) : Reading Text :=
  match s with
  | .char '\x22' :: rest =>
    match readString rest with
    | .error f => .error f
    | .ok (key, rest) =>
      match skipSpace rest with
      | .char ':' :: rest => .ok (key, skipSpace rest)
      | other => failAt .expectingColon other
  | _ => failAt .expectingKey s

mutual
/-- A value at the front of a text, inside which so many collections may still be opened. -/
def readValue (limits : Limits) : (steps room : Nat) → Text → Reading Value
  | 0, _, s => failAt .expectingValue s
  | _ + 1, _, [] => failAt .expectingValue []
  | steps + 1, room, c :: rest =>
    if c = '\x22' then
      match readString rest with
      | .ok (text, rest) => .ok (.string text, rest)
      | .error f => .error f
    else if c = '\x7b' then
      match room with
      | 0 => .error (.tooDeep .object)
      | room + 1 =>
        match skipSpace rest with
        | .char '\x7d' :: rest => .ok (.object [], rest)
        | other =>
          match readFields limits steps room other with
          | .ok (fields, rest) => .ok (.object (OrderedMap.ofPairs fields), rest)
          | .error f => .error f
    else if c = '[' then
      match room with
      | 0 => .error (.tooDeep .array)
      | room + 1 =>
        match skipSpace rest with
        | .char ']' :: rest => .ok (.array [], rest)
        | other =>
          match readItems limits steps room other with
          | .ok (items, rest) => .ok (.array items, rest)
          | .error f => .error f
    else readScalar limits (c :: rest)

/-- The items of a list up to its closing bracket. -/
def readItems (limits : Limits) : (steps room : Nat) → Text → Reading (List Value)
  | 0, _, s => failAt .expectingValue s
  | steps + 1, room, s =>
    match readValue limits steps room s with
    | .error f => .error f
    | .ok (item, rest) =>
      match skipSpace rest with
      | .char ']' :: rest => .ok ([item], rest)
      | .char ',' :: rest =>
        match readItems limits steps room (skipSpace rest) with
        | .ok (items, rest) => .ok (item :: items, rest)
        | .error f => .error f
      | other => failAt .expectingComma other

/-- The fields of an object up to its closing brace. -/
def readFields (limits : Limits) : (steps room : Nat) → Text → Reading (List (Text × Value))
  | 0, _, s => failAt .expectingValue s
  | steps + 1, room, s =>
    match readKey s with
    | .error f => .error f
    | .ok (key, rest) =>
      match readValue limits steps room rest with
      | .error f => .error f
      | .ok (item, rest) =>
        match skipSpace rest with
        | .char '\x7d' :: rest => .ok ([(key, item)], rest)
        | .char ',' :: rest =>
          match readFields limits steps room (skipSpace rest) with
          | .ok (fields, rest) => .ok ((key, item) :: fields, rest)
          | .error f => .error f
        | other => failAt .expectingComma other
end

/-- The one value that a text consists of. -/
def readDocument (limits : Limits) (s : Text) : Except Refusal Value :=
  match readValue limits (2 * s.length + 1) limits.nesting (skipSpace s) with
  | .error f => .error f
  | .ok (v, rest) =>
    match skipSpace rest with
    | [] => .ok v
    | other => failAt .extraData other

/-- Read decoded text, in which a byte order mark has no meaning. -/
def parseDecoded (limits : Limits) (s : Text) : Except ReadError Value :=
  (readDocument limits s).mapError (·.locate s)

/-- Read text within limits; a byte order mark at its start is refused. -/
def parseWithin (limits : Limits) (s : Text) : Except ReadError Value :=
  if s.head? = some (.ofCode 0xfeff) then
    .error (.malformed (Failure.locate s ⟨.byteOrderMark, s.length⟩))
  else parseDecoded limits s

/-- Read text. -/
def parse (s : Text) : Except ReadError Value := parseWithin .standard s

end ConversionRelay.Json
