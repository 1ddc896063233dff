import ConversionRelay.Text.Encoding
import ConversionRelay.Text.Pieces
/-!
Text inside addresses: bytes in hexadecimal, and forms.

What has a meaning of its own in an address is written by its UTF-8 bytes, each in hexadecimal after
a percent sign. In a form letters, digits and four marks stand for themselves, and a space becomes a
plus.

Main statement: what is kept stands for itself (`escape_of_all_kept`).
-/
namespace ConversionRelay.Address

open Text

/-- A digit below sixteen, in upper case. -/
def upperHexDigit (d : Nat) : CodePoint := .ofCode (if d < 10 then 48 + d else 55 + d)

/-- A byte in hexadecimal after a percent sign. -/
def escapedByte (b : UInt8) : Text :=
  "%" ++ [upperHexDigit (b.toNat / 16), upperHexDigit (b.toNat % 16)]

/-- A character, by its bytes unless it is kept. -/
def escapeUnless (kept : CodePoint → Bool) (c : CodePoint) : Except EncodeProblem Text :=
  if kept c then .ok [c] else (encodeUtf8 [c]).map fun bytes => bytes.flatMap escapedByte

/-- A text with the bytes of every character that is not kept. -/
def escape (kept : CodePoint → Bool) (s : Text) : Except EncodeProblem Text :=
  (s.mapM (escapeUnless kept)).map List.flatten

/-- Whether a character stands for itself in a form. -/
def isFormSafe (c : CodePoint) : Bool :=
  c.isLetter || c.isDigit || ("_.-~" : Text).contains c

/-- The bytes of a form value: those of a space are a plus. -/
def formByte (b : UInt8) : Text :=
  if b = 0x20 then "+"
  else if isFormSafe (.ofCode b.toNat) then [.ofCode b.toNat]
  else escapedByte b

/-- A form value or the name of one. -/
def formText (s : Text) : Except EncodeProblem Text :=
  (encodeUtf8 s).map fun bytes => bytes.flatMap formByte

/-- A name and a value of a form. -/
def formPair (pair : Text × Text) : Except EncodeProblem Text := do
  let name ← formText pair.1
  let value ← formText pair.2
  return name ++ "=" ++ value

/-- Pairs of names and values as a form. -/
def form (pairs : List (Text × Text)) : Except EncodeProblem Text :=
  (pairs.mapM formPair).map (join "&")

/-- What is kept stands for itself. -/
theorem escape_of_all_kept {kept : CodePoint → Bool} {s : Text} (h : ∀ c ∈ s, kept c = true) :
    escape kept s = .ok s := by
  have each : s.mapM (escapeUnless kept) = .ok (s.map fun c => [c]) := by
    induction s with
    | nil => rfl
    | cons c s ih =>
      rw [List.mapM_cons, ih fun d member => h d (List.mem_cons_of_mem _ member)]
      simp [escapeUnless, h c, bind, Except.bind, pure, Except.pure]
  rw [escape, each]
  simp [Except.map, ← List.flatMap_def]

end ConversionRelay.Address
