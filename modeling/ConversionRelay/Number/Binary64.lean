/-!
Binary floating-point numbers of 64 bits as exact data.

A number is its sign, its eleven exponent bits and its fifty-two fraction bits, so equality is
decidable and every question about a value is a question about natural numbers. Nothing here runs
the machine's floating-point unit: a ratio is rounded by one integer division, half to even.

A not-a-number keeps its fraction bits. Two of them with the same bits are one and the same value,
although no not-a-number equals anything as a number.
-/
namespace ConversionRelay

/-- Two to the power of 52: how many fractions there are, and the weight of the leading bit that
they leave out. -/
abbrev leadingBit : Nat := 0x10000000000000

/-- The fields of a 64-bit binary floating-point number. -/
structure Binary64 where
  negative : Bool
  exponent : Fin 2048
  fraction : Fin leadingBit
  deriving DecidableEq, Repr

namespace Binary64

/-- Zero of either sign. -/
def zero (negative : Bool) : Binary64 := ⟨negative, 0, 0⟩

/-- Infinity of either sign. -/
def infinity (negative : Bool) : Binary64 := ⟨negative, 2047, 0⟩

/-- The not-a-number with the given payload; payload zero is the one that documents spell out. -/
def nan (payload : Nat) : Binary64 := ⟨false, 2047, Fin.ofNat leadingBit (leadingBit / 2 + payload)⟩

instance : Inhabited Binary64 := ⟨zero false⟩

/-- Not a number: all exponent bits set and some fraction bit. -/
def isNaN (x : Binary64) : Bool := x.exponent == 2047 && x.fraction != 0

/-- Neither an infinity nor not-a-number. -/
def isFinite (x : Binary64) : Bool := x.exponent != 2047

/-- Zero of either sign. -/
def isZero (x : Binary64) : Bool := x.exponent == 0 && x.fraction == 0

/-- The same number without its sign. -/
def magnitude (x : Binary64) : Binary64 := { x with negative := false }

/-- The integer significand of a finite number. -/
def significand (x : Binary64) : Nat :=
  if x.exponent = 0 then x.fraction else leadingBit + x.fraction

/-- The power of two that scales the significand of a finite number. -/
def scale (x : Binary64) : Int := (max x.exponent.val 1 : Nat) - 1075

/-- Numerator and denominator of the magnitude of a finite number. -/
def ratio (x : Binary64) : Nat × Nat :=
  if 0 ≤ x.scale then (x.significand * Nat.pow 2 x.scale.toNat, 1)
  else (x.significand, Nat.pow 2 (-x.scale).toNat)

/-- The nearest integer to a quotient; of two equally near ones the even one. -/
def roundQuotient (num den : Nat) : Nat :=
  let floor := num / den
  let twice := 2 * (num % den)
  if den < twice ∨ (den = twice ∧ floor % 2 = 1) then floor + 1 else floor

/-- The greatest power of two that does not exceed a positive ratio. -/
def floorLog2 (num den : Nat) : Int :=
  let k : Int := (num.log2 : Int) - den.log2
  if den * Nat.pow 2 k.toNat ≤ num * Nat.pow 2 (-k).toNat then k else k - 1

/-- The number with significand `m` in units of two to the power `unit`, where `m` is at most twice
`leadingBit`. -/
def pack (negative : Bool) (m : Nat) (unit : Int) : Binary64 :=
  if m < leadingBit then ⟨negative, 0, Fin.ofNat leadingBit m⟩
  else
    let carried := m = 2 * leadingBit
    let biased := unit + 1075 + (if carried then 1 else 0)
    if biased < 2047 then
      ⟨negative, Fin.ofNat 2048 biased.toNat,
        Fin.ofNat leadingBit (if carried then 0 else m - leadingBit)⟩
    else infinity negative

/-- The number nearest to a ratio; of two equally near ones the one with an even significand. -/
def ofRatio (negative : Bool) (num den : Nat) : Binary64 :=
  if num = 0 then zero negative
  else
    let unit := max (floorLog2 num den - 52) (-1074)
    let m := roundQuotient (num * Nat.pow 2 (-unit).toNat) (den * Nat.pow 2 unit.toNat)
    pack negative m unit

/--
The number nearest to `digits * 10 ^ power`. Powers beyond every finite number, and below every
positive one, are settled without writing the power out.
-/
def ofDecimal (negative : Bool) (digits : Nat) (power : Int) : Binary64 :=
  if digits = 0 then zero negative
  else if 400 < power then infinity negative
  else if (digits.log2 : Int) + 400 < -power then zero negative
  else ofRatio negative (digits * Nat.pow 10 power.toNat) (Nat.pow 10 (-power).toNat)

/-- The number nearest to an integer. -/
def ofInt (n : Int) : Binary64 := ofRatio (n < 0) n.natAbs 1

/-- Equality as numbers: not-a-number equals nothing and the two zeros are equal. -/
def equal (x y : Binary64) : Bool :=
  !x.isNaN && !y.isNaN && (x == y || (x.isZero && y.isZero))

/-- Whether the number has exactly an integer's value. -/
def equalInt (x : Binary64) (n : Int) : Bool :=
  x.isFinite &&
    (let size := x.ratio
     let signed : Int := if x.negative then -(size.1 : Int) else size.1
     signed == n * size.2)

/-- A finite number without its fraction. -/
def truncated (x : Binary64) : Int :=
  let size : Int := (x.ratio.1 / x.ratio.2 : Nat)
  if x.negative then -size else size

/-- The value of a finite number as a fraction with a sign. -/
def signedRatio (x : Binary64) : Int × Nat :=
  (if x.negative then -(x.ratio.1 : Int) else x.ratio.1, x.ratio.2)

/-- The sum of two finite numbers, rounded to the nearest number. -/
def sum (x y : Binary64) : Binary64 :=
  let num := x.signedRatio.1 * y.signedRatio.2 + y.signedRatio.1 * x.signedRatio.2
  ofRatio (num < 0) num.natAbs (x.signedRatio.2 * y.signedRatio.2)

/-- Whether the magnitude of a number exceeds a ratio; that of infinity exceeds all. -/
def exceeds (x : Binary64) (num den : Nat) : Bool :=
  !x.isNaN && (!x.isFinite || num * x.ratio.2 < x.ratio.1 * den)

@[simp] theorem isZero_zero (negative : Bool) : (zero negative).isZero = true := by
  cases negative <;> decide

@[simp] theorem equal_nan_left (payload : Nat) (y : Binary64) (h : (nan payload).isNaN = true) :
    equal (nan payload) y = false := by
  simp [equal, h]

end Binary64

end ConversionRelay
