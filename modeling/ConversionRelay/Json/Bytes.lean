import ConversionRelay.Json.Parser
import ConversionRelay.Text.Encoding
/-!
JSON as bytes.

The encoding is recognised by a byte order mark, or else by where the first four bytes are zero: a
JSON text begins with an ASCII character, so its zero bytes tell the width and the order of the
units. Halves of surrogate pairs may stand alone in any encoding.
-/
namespace ConversionRelay.Json

open Text

/-- The byte order marks, each with its encoding; a longer mark comes before its own beginning. -/
def byteOrderMarks : List (List UInt8 × Encoding) := [
  ([0x00, 0x00, 0xfe, 0xff], .utf32 .bigEndian),
  ([0xff, 0xfe, 0x00, 0x00], .utf32 .littleEndian),
  ([0xfe, 0xff], .utf16 .bigEndian),
  ([0xff, 0xfe], .utf16 .littleEndian),
  ([0xef, 0xbb, 0xbf], .utf8)]

/-- The encoding that the zeros among the first bytes suggest. -/
def encodingByZeros : List UInt8 → Encoding
  | a :: b :: c :: d :: _ =>
    if a = 0 then (if b = 0 then .utf32 .bigEndian else .utf16 .bigEndian)
    else if b = 0 then (if c = 0 ∧ d = 0 then .utf32 .littleEndian else .utf16 .littleEndian)
    else .utf8
  | [a, b] =>
    if a = 0 then .utf16 .bigEndian else if b = 0 then .utf16 .littleEndian else .utf8
  | _ => .utf8

/-- The encoding of a byte sequence, and the bytes without their mark. -/
def recognise (bytes : List UInt8) : Encoding × List UInt8 :=
  match byteOrderMarks.find? fun mark => mark.1.isPrefixOf bytes with
  | some mark => (mark.2, bytes.drop mark.1.length)
  | none => (encodingByZeros bytes, bytes)

/-- The text of a byte sequence in the encoding that it announces. -/
def decodeBytes (bytes : List UInt8) : Except DecodeProblem Text :=
  match recognise bytes with
  | (.utf8, body) => decodeUtf8 .kept body
  | (.utf16 order, body) => decodeUtf16 order body
  | (.utf32 order, body) => decodeUtf32 order body

end ConversionRelay.Json
