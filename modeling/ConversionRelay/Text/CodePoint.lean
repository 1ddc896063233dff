/-!
Text as a sequence of code points.

Nearly every code point of a text is a character. But a document may spell half of a surrogate pair
on its own, and such a half stays what it is: it equals nothing but itself, it is no character, and
it has no UTF-8 bytes. Texts are ordered by the numbers of their code points.

Main statements: a code point is determined by its number (`CodePoint.ofCode_code`), and of two
texts one does not come after the other (`Text.le_total`).
-/
namespace ConversionRelay

/-- A character, or half of a surrogate pair that stands alone. -/
inductive CodePoint where
  | char (c : Char)
  /-- Halves are counted from the first high one. -/
  | surrogate (half : Fin 2048)
  deriving DecidableEq, Repr

/-- A text. -/
abbrev Text := List CodePoint

instance : Coe Char CodePoint := ⟨.char⟩

namespace CodePoint

/-- The number of the first half of a surrogate pair. -/
abbrev firstSurrogate : Nat := 0xd800

/-- The number of a code point. -/
def code : CodePoint → Nat
  | char c => c.toNat
  | surrogate half => firstSurrogate + half

/-- The code point of a number; a number beyond the last one gives the null character. -/
def ofCode (n : Nat) : CodePoint :=
  if h : firstSurrogate ≤ n ∧ n < firstSurrogate + 2048 then
    surrogate ⟨n - firstSurrogate, by omega⟩
  else char (Char.ofNat n)

/-- Whether a code point is a character with a property. -/
def isChar (property : Char → Bool) : CodePoint → Bool
  | char c => property c
  | surrogate _ => false

/-- Whether a code point is half of a surrogate pair. -/
def isSurrogate : CodePoint → Bool
  | char _ => false
  | surrogate _ => true

/-- Whether a code point is a digit of ASCII. -/
def isDigit (x : CodePoint) : Bool := x.isChar Char.isDigit

/-- The value of a digit of ASCII. -/
def digitValue (x : CodePoint) : Nat := x.code - 48

/-- Whether a code point is a letter of ASCII. -/
def isLetter (x : CodePoint) : Bool := x.isChar Char.isAlpha

/-- Whether a code point is a lower-case letter of ASCII. -/
def isLower (x : CodePoint) : Bool := x.isChar Char.isLower

/-- Whether a code point is a capital letter of ASCII. -/
def isUpper (x : CodePoint) : Bool := x.isChar Char.isUpper

/-- Whether a code point belongs to ASCII. -/
def isAscii (x : CodePoint) : Bool := x.code < 0x80

/-- Whether a code point is a control character of ASCII. -/
def isControl (x : CodePoint) : Bool := x.code < 0x20 || x.code = 0x7f

/-- A code point with a capital letter of ASCII made lower-case. -/
def plainLower : CodePoint → CodePoint
  | char c => char c.toLower
  | surrogate half => surrogate half

/-- A code point is determined by its number. -/
@[simp] theorem ofCode_code (x : CodePoint) : ofCode x.code = x := by
  cases x with
  | char c =>
    have valid := c.valid
    have outside : ¬ (firstSurrogate ≤ c.toNat ∧ c.toNat < firstSurrogate + 2048) := by
      simp only [Char.toNat, firstSurrogate]
      rcases valid with low | high <;> omega
    simp [ofCode, code, outside]
  | surrogate half => simp [ofCode, code]

end CodePoint

namespace Text

/-- The text of a string. -/
def ofString (s : String) : Text := s.toList.map .char

instance : Coe String Text := ⟨ofString⟩

/-- A text as a string, in which the replacement character stands for half of a surrogate pair. -/
def toString (s : Text) : String :=
  String.ofList <| s.map fun
    | .char c => c
    | .surrogate _ => '\ufffd'

/-- Whether the first text does not come after the second by the numbers of their code points. -/
def le : Text → Text → Bool
  | [], _ => true
  | _ :: _, [] => false
  | x :: s, y :: t => x.code < y.code || (x.code == y.code && le s t)

@[simp] theorem le_refl (s : Text) : le s s = true := by
  induction s with
  | nil => rfl
  | cons x s ih => simp [le, ih]

/-- Of two texts one does not come after the other. -/
theorem le_total (s t : Text) : (le s t || le t s) = true := by
  induction s generalizing t with
  | nil => simp [le]
  | cons x s ih =>
    cases t with
    | nil => simp [le]
    | cons y t =>
      rcases Nat.lt_trichotomy x.code y.code with lt | eq | gt
      · simp [le, lt]
      · simpa [le, eq] using ih t
      · simp [le, gt]

/-- What does not come after a text does not come after what follows that text. -/
theorem le_trans {r s t : Text} (first : le r s = true) (second : le s t = true) :
    le r t = true := by
  induction r generalizing s t with
  | nil => simp [le]
  | cons x r ih =>
    cases s with
    | nil => simp [le] at first
    | cons y s =>
      cases t with
      | nil => simp [le] at second
      | cons z t =>
        simp only [le, Bool.or_eq_true, Bool.and_eq_true, decide_eq_true_eq, beq_iff_eq] at *
        rcases first with lt | ⟨eq, tail⟩ <;> rcases second with lt' | ⟨eq', tail'⟩
        · left; omega
        · left; omega
        · left; omega
        · right; exact ⟨by omega, ih tail tail'⟩

end Text

end ConversionRelay
