import ConversionRelay.Text.Encoding
import ConversionRelay.Text.Quoted
/-!
The SHA-256 digest of a text.

The bytes are padded to whole blocks of sixteen words, each block is spread over sixty-four rounds,
and the eight words of the state are written in hexadecimal.
-/
namespace ConversionRelay.Digest

/-- The eight words that a digest works on. -/
structure State where
  a : UInt32
  b : UInt32
  c : UInt32
  d : UInt32
  e : UInt32
  f : UInt32
  g : UInt32
  h : UInt32
  deriving DecidableEq, Repr

/-- The fractional parts of the square roots of the first eight primes. -/
def State.initial : State :=
  ⟨0x6a09e667, 0xbb67ae85, 0x3c6ef372, 0xa54ff53a,
    0x510e527f, 0x9b05688c, 0x1f83d9ab, 0x5be0cd19⟩

/-- The fractional parts of the cube roots of the first sixty-four primes, one for each round. -/
def roundConstants : List UInt32 := [
  0x428a2f98, 0x71374491, 0xb5c0fbcf, 0xe9b5dba5, 0x3956c25b, 0x59f111f1,
  0x923f82a4, 0xab1c5ed5, 0xd807aa98, 0x12835b01, 0x243185be, 0x550c7dc3,
  0x72be5d74, 0x80deb1fe, 0x9bdc06a7, 0xc19bf174, 0xe49b69c1, 0xefbe4786,
  0x0fc19dc6, 0x240ca1cc, 0x2de92c6f, 0x4a7484aa, 0x5cb0a9dc, 0x76f988da,
  0x983e5152, 0xa831c66d, 0xb00327c8, 0xbf597fc7, 0xc6e00bf3, 0xd5a79147,
  0x06ca6351, 0x14292967, 0x27b70a85, 0x2e1b2138, 0x4d2c6dfc, 0x53380d13,
  0x650a7354, 0x766a0abb, 0x81c2c92e, 0x92722c85, 0xa2bfe8a1, 0xa81a664b,
  0xc24b8b70, 0xc76c51a3, 0xd192e819, 0xd6990624, 0xf40e3585, 0x106aa070,
  0x19a4c116, 0x1e376c08, 0x2748774c, 0x34b0bcb5, 0x391c0cb3, 0x4ed8aa4a,
  0x5b9cca4f, 0x682e6ff3, 0x748f82ee, 0x78a5636f, 0x84c87814, 0x8cc70208,
  0x90befffa, 0xa4506ceb, 0xbef9a3f7, 0xc67178f2]

/-- Rotate a word to the right. -/
def rotate (x n : UInt32) : UInt32 := (x >>> n) ||| (x <<< (32 - n))

/-- The sixteen words of a block and those that the given number of rounds adds to them. -/
def schedule : (rounds : Nat) → List UInt32 → List UInt32
  | 0, window => window
  | _ + 1, [] => []
  | rounds + 1, oldest :: window =>
    let near := window.getD 0 0
    let middle := window.getD 8 0
    let late := window.getD 13 0
    let mixNear := rotate near 7 ^^^ rotate near 18 ^^^ (near >>> 3)
    let mixLate := rotate late 17 ^^^ rotate late 19 ^^^ (late >>> 10)
    oldest :: schedule rounds (window ++ [oldest + mixNear + middle + mixLate])

/-- One round with its constant and its word of the schedule. -/
def State.round (s : State) (constant word : UInt32) : State :=
  let mixE := rotate s.e 6 ^^^ rotate s.e 11 ^^^ rotate s.e 25
  let choice := (s.e &&& s.f) ^^^ (~~~s.e &&& s.g)
  let first := s.h + mixE + choice + constant + word
  let mixA := rotate s.a 2 ^^^ rotate s.a 13 ^^^ rotate s.a 22
  let majority := (s.a &&& s.b) ^^^ (s.a &&& s.c) ^^^ (s.b &&& s.c)
  ⟨first + mixA + majority, s.a, s.b, s.c, s.d + first, s.e, s.f, s.g⟩

/-- The sums of the words of two states. -/
def State.add (s t : State) : State :=
  ⟨s.a + t.a, s.b + t.b, s.c + t.c, s.d + t.d, s.e + t.e, s.f + t.f, s.g + t.g, s.h + t.h⟩

/-- The state after a block. -/
def State.absorb (s : State) (block : List UInt32) : State :=
  s.add ((roundConstants.zip (schedule 48 block)).foldl (fun t step => t.round step.1 step.2) s)

/-- The four bytes of a word. -/
def wordBytes (x : UInt32) : List UInt8 :=
  [(x >>> 24).toUInt8, (x >>> 16).toUInt8, (x >>> 8).toUInt8, x.toUInt8]

/-- The word of every four bytes. -/
def words : List UInt8 → List UInt32
  | a :: b :: c :: d :: rest =>
    ((a.toUInt32 <<< 24) ||| (b.toUInt32 <<< 16) ||| (c.toUInt32 <<< 8) ||| d.toUInt32) ::
      words rest
  | _ => []

/-- A message with a one bit, zeros up to eight bytes before the end of a block, and its length in
bits. -/
def padding (message : List UInt8) : List UInt8 :=
  let length := UInt64.ofNat (8 * message.length)
  let zeros := (119 - message.length % 64) % 64
  message ++ (0x80 : UInt8) :: List.replicate zeros 0 ++
    wordBytes (length >>> 32).toUInt32 ++ wordBytes length.toUInt32

/-- The state after the given number of blocks. -/
def absorbBlocks : (blocks : Nat) → List UInt32 → State → State
  | 0, _, s => s
  | blocks + 1, ws, s => absorbBlocks blocks (ws.drop 16) (s.absorb (ws.take 16))

/-- The words of a state in order. -/
def State.words (s : State) : List UInt32 := [s.a, s.b, s.c, s.d, s.e, s.f, s.g, s.h]

/-- The digest of a message. -/
def sha256 (message : List UInt8) : List UInt32 :=
  let ws := words (padding message)
  (absorbBlocks (ws.length / 16) ws State.initial).words

/-- The digest of the UTF-8 bytes of a text, in hexadecimal, if the text has such bytes. -/
def ofText (s : Text) : Except Text.EncodeProblem Text :=
  (Text.encodeUtf8 s).map fun bytes => (sha256 bytes).flatMap fun w => Text.hex 8 w.toNat

end ConversionRelay.Digest
