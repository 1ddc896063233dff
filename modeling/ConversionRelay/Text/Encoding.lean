import ConversionRelay.Number.Decimal
import ConversionRelay.Text.Quoted
/-!
Texts as bytes: UTF-8, UTF-16 and UTF-32.

A decoder refuses whatever does not spell a code point in its shortest form, and says which bytes
are at fault. Halves of surrogate pairs that stand alone are refused in UTF-8 or, where a source may
hold them, read as what they are; the wide encodings always read them so. UTF-8 is the encoding of
everything that is written, and no such half can be written in it.

Main statement: a text without such halves can be encoded (`encodeUtf8_of_all_char`).
-/
namespace ConversionRelay.Text

/-- What a decoder of UTF-8 makes of half of a surrogate pair that stands alone. -/
inductive LoneSurrogate where
  | refused
  | kept
  deriving DecidableEq, Repr

/-- The order of the bytes of a unit. -/
inductive ByteOrder where
  | bigEndian
  | littleEndian
  deriving DecidableEq, Repr

/-- An encoding of texts. -/
inductive Encoding where
  | utf8
  | utf16 (order : ByteOrder)
  | utf32 (order : ByteOrder)
  deriving DecidableEq, Repr

/-- The name of an encoding. -/
def Encoding.name : Encoding → Text
  | utf8 => "utf-8"
  | utf16 .bigEndian => "utf-16-be"
  | utf16 .littleEndian => "utf-16-le"
  | utf32 .bigEndian => "utf-32-be"
  | utf32 .littleEndian => "utf-32-le"

/-- What is wrong with bytes that do not spell a text. -/
inductive DecodeFlaw where
  | badStart
  | badContinuation
  /-- The bytes end inside a code point. -/
  | unfinished
  /-- Fewer bytes are left than a unit has. -/
  | incompleteUnit
  /-- A unit is beyond the last code point. -/
  | beyondLast
  deriving DecidableEq, Repr

/-- The wording of a flaw. -/
def DecodeFlaw.message : DecodeFlaw → Text
  | badStart => "invalid start byte"
  | badContinuation => "invalid continuation byte"
  | unfinished => "unexpected end of data"
  | incompleteUnit => "truncated data"
  | beyondLast => "code point not in range(0x110000)"

/-- A flaw with the bytes that are at fault. -/
structure DecodeProblem where
  encoding : Encoding
  flaw : DecodeFlaw
  /-- The position of the first byte at fault, and the byte itself. -/
  position : Nat
  byte : UInt8
  /-- How many bytes are at fault. -/
  count : Nat
  deriving DecidableEq, Repr

/-- A place in a text: a single position, or the first and the last one. -/
def placeText (position count : Nat) : Text :=
  if count = 1 then Decimal.ofNat position
  else Decimal.ofNat position ++ "-" ++ Decimal.ofNat (position + count - 1)

/-- The wording of a problem with bytes. -/
def DecodeProblem.message (problem : DecodeProblem) : Text :=
  let fault := if problem.count = 1 then "byte 0x" ++ hex 2 problem.byte.toNat else "bytes"
  "'" ++ problem.encoding.name ++ "' codec can't decode " ++ fault ++ " in position " ++
    placeText problem.position problem.count ++ ": " ++ problem.flaw.message

/-- Why a text cannot be encoded: halves of surrogate pairs follow each other somewhere. -/
structure EncodeProblem where
  /-- The position of the first half, and the half itself. -/
  position : Nat
  half : CodePoint
  /-- How many halves follow each other. -/
  count : Nat
  deriving DecidableEq, Repr

/-- The wording of a problem with a text. -/
def EncodeProblem.message (problem : EncodeProblem) : Text :=
  let fault :=
    if problem.count = 1 then "character '\\u" ++ hex 4 problem.half.code ++ "'" else "characters"
  "'utf-8' codec can't encode " ++ fault ++ " in position " ++
    placeText problem.position problem.count ++ ": surrogates not allowed"

section Utf8

/-- The UTF-8 bytes of a code point. -/
def utf8Bytes (c : CodePoint) : List UInt8 :=
  let n := c.code
  if n < 0x80 then [UInt8.ofNat n]
  else if n < 0x800 then [UInt8.ofNat (0xc0 + n / 64), UInt8.ofNat (0x80 + n % 64)]
  else if n < 0x10000 then
    [UInt8.ofNat (0xe0 + n / 4096), UInt8.ofNat (0x80 + n / 64 % 64), UInt8.ofNat (0x80 + n % 64)]
  else
    [UInt8.ofNat (0xf0 + n / 262144), UInt8.ofNat (0x80 + n / 4096 % 64),
      UInt8.ofNat (0x80 + n / 64 % 64), UInt8.ofNat (0x80 + n % 64)]

/-- The UTF-8 bytes of a text. -/
def encodeUtf8 (s : Text) : Except EncodeProblem (List UInt8) :=
  let before := s.takeWhile fun c => !c.isSurrogate
  match s.drop before.length with
  | [] => .ok (s.flatMap utf8Bytes)
  | half :: rest =>
    .error ⟨before.length, half, (rest.takeWhile CodePoint.isSurrogate).length + 1⟩

/-- How many bytes follow a byte that begins a code point; nothing if it begins none. -/
def followers? (lead : Nat) : Option Nat :=
  if lead < 0x80 then some 0
  else if lead < 0xc2 then none
  else if lead < 0xe0 then some 1
  else if lead < 0xf0 then some 2
  else if lead < 0xf5 then some 3
  else none

/-- The bits that a byte with some bytes after it contributes to a code point. -/
def leadBits (lead : Nat) : (followers : Nat) → Nat
  | 0 => lead
  | 1 => lead - 0xc0
  | 2 => lead - 0xe0
  | _ => lead - 0xf0

/-- The least and the greatest byte that may come second: no code point may have a shorter form, be
half of a surrogate pair or lie beyond the last one. -/
def secondBounds (lead : Nat) : Nat × Nat :=
  if lead = 0xe0 then (0xa0, 0xbf)
  else if lead = 0xed then (0x80, 0x9f)
  else if lead = 0xf0 then (0x90, 0xbf)
  else if lead = 0xf4 then (0x80, 0x8f)
  else (0x80, 0xbf)

/-- The number that the bits so far and some more bytes spell, or the flaw and how many bytes it
spoils; the first of the bytes has to keep within bounds. -/
def continued (bits taken : Nat) (bounds : Nat × Nat) :
    (count : Nat) → List UInt8 → Except (DecodeFlaw × Nat) Nat
  | 0, _ => .ok bits
  | _ + 1, [] => .error (.unfinished, taken)
  | count + 1, b :: rest =>
    if bounds.1 ≤ b.toNat ∧ b.toNat ≤ bounds.2 then
      continued (bits * 64 + (b.toNat - 0x80)) (taken + 1) (0x80, 0xbf) count rest
    else .error (.badContinuation, taken)

/-- The half of a surrogate pair that the first three bytes spell, if they spell one. -/
def surrogateBytes? (lead : UInt8) : List UInt8 → Option Nat
  | second :: third :: _ =>
    if lead.toNat = 0xed ∧ 0xa0 ≤ second.toNat ∧ second.toNat < 0xc0 ∧ 0x80 ≤ third.toNat ∧
        third.toNat < 0xc0 then
      some ((0xd * 64 + (second.toNat - 0x80)) * 64 + (third.toNat - 0x80))
    else none
  | _ => none

/-- The code point at the front of some bytes and how many bytes follow the first one, or the flaw
and how many bytes it spoils. -/
def utf8Front (lone : LoneSurrogate) (lead : UInt8) (rest : List UInt8) :
    Except (DecodeFlaw × Nat) (Nat × Nat) :=
  match if lone = .kept then surrogateBytes? lead rest else none with
  | some half => .ok (half, 2)
  | none =>
    match followers? lead.toNat with
    | none => .error (.badStart, 1)
    | some count =>
      (continued (leadBits lead.toNat count) 1 (secondBounds lead.toNat) count rest).map
        fun n => (n, count)

/-- Decode UTF-8 from a position on, after passing over `skip` bytes that belong to the code point
before. -/
def decodeUtf8From (lone : LoneSurrogate) :
    (position skip : Nat) → List UInt8 → Except DecodeProblem Text
  | _, _, [] => .ok []
  | position, skip + 1, _ :: rest => decodeUtf8From lone (position + 1) skip rest
  | position, 0, lead :: rest =>
    match utf8Front lone lead rest with
    | .error (flaw, count) => .error ⟨.utf8, flaw, position, lead, count⟩
    | .ok (n, used) => (decodeUtf8From lone (position + 1) used rest).map (.ofCode n :: ·)

/-- Decode UTF-8. -/
def decodeUtf8 (lone : LoneSurrogate) (bytes : List UInt8) : Except DecodeProblem Text :=
  decodeUtf8From lone 0 0 bytes

/-- A text that consists of characters can be encoded. -/
theorem encodeUtf8_of_all_char {s : Text} (chars : ∀ c ∈ s, c.isSurrogate = false) :
    encodeUtf8 s = .ok (s.flatMap utf8Bytes) := by
  have all : s.takeWhile (fun c => !c.isSurrogate) = s := by
    induction s with
    | nil => rfl
    | cons c s ih => simp_all
  simp [encodeUtf8, all]

end Utf8

section Wide

/-- The value of two bytes. -/
def pairValue (order : ByteOrder) (a b : UInt8) : Nat :=
  match order with
  | .bigEndian => a.toNat * 256 + b.toNat
  | .littleEndian => b.toNat * 256 + a.toNat

/-- The value of four bytes. -/
def quadValue (order : ByteOrder) (a b c d : UInt8) : Nat :=
  match order with
  | .bigEndian => pairValue order a b * 65536 + pairValue order c d
  | .littleEndian => pairValue order c d * 65536 + pairValue order a b

/-- The 16-bit units from a position on. -/
def units16From (order : ByteOrder) :
    (position : Nat) → List UInt8 → Except DecodeProblem (List Nat)
  | _, [] => .ok []
  | position, [b] => .error ⟨.utf16 order, .incompleteUnit, position, b, 1⟩
  | position, a :: b :: rest =>
    (units16From order (position + 2) rest).map (pairValue order a b :: ·)

/-- The text of 16-bit units: a high half of a pair and a low one right after it are one character,
any other half stands alone. -/
def ofUnits16 : List Nat → Text
  | [] => []
  | [unit] => [.ofCode unit]
  | high :: low :: rest =>
    if 0xd800 ≤ high ∧ high < 0xdc00 ∧ 0xdc00 ≤ low ∧ low < 0xe000 then
      .ofCode (0x10000 + (high - 0xd800) * 0x400 + (low - 0xdc00)) :: ofUnits16 rest
    else .ofCode high :: ofUnits16 (low :: rest)

/-- Decode UTF-16. -/
def decodeUtf16 (order : ByteOrder) (bytes : List UInt8) : Except DecodeProblem Text :=
  (units16From order 0 bytes).map ofUnits16

/-- Decode UTF-32 from a position on. -/
def decodeUtf32From (order : ByteOrder) :
    (position : Nat) → List UInt8 → Except DecodeProblem Text
  | _, [] => .ok []
  | position, a :: b :: c :: d :: rest =>
    if quadValue order a b c d < 0x110000 then
      (decodeUtf32From order (position + 4) rest).map (.ofCode (quadValue order a b c d) :: ·)
    else .error ⟨.utf32 order, .beyondLast, position, a, 4⟩
  | position, a :: rest =>
    .error ⟨.utf32 order, .incompleteUnit, position, a, rest.length + 1⟩

/-- Decode UTF-32. -/
def decodeUtf32 (order : ByteOrder) (bytes : List UInt8) : Except DecodeProblem Text :=
  decodeUtf32From order 0 bytes

end Wide

/-- Line breaks of every convention as single line feeds. -/
def plainLineBreaks : Text → Text
  | [] => []
  | .char '\r' :: .char '\n' :: rest => '\n' :: plainLineBreaks rest
  | c :: rest => (if c = '\r' then '\n' else c) :: plainLineBreaks rest

end ConversionRelay.Text
