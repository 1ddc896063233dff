import ConversionRelay.Number.Binary64
import ConversionRelay.Text.CodePoint
/-!
Decimal text of numbers.

An integer is written with all its digits. A binary number is written with the fewest significant
digits that read back as the same number, and among those with the digits nearest to it. Where
positional notation ends and how an exponent is spelled is a `DecimalStyle`, chosen by whoever
writes the text.

The search tests each candidate by reading it back, and its last resort is the exact decimal
expansion; hence what is written always reads back as the number it came from.
-/
namespace ConversionRelay

namespace Decimal

/-- The character of a digit below ten. -/
def digitChar (d : Nat) : CodePoint := .ofCode (48 + d)

/-- The decimal digits of a positive number, least significant first, within a number of steps. -/
def reversedDigits : Nat → Nat → List Nat
  | 0, _ => []
  | steps + 1, n => if n = 0 then [] else (n % 10) :: reversedDigits steps (n / 10)

/-- The decimal digits of a number, most significant first; zero has the one digit zero. -/
def digits (n : Nat) : List Nat :=
  if n = 0 then [0] else (reversedDigits (n.log2 + 1) n).reverse

/-- A natural number in decimal. -/
def ofNat (n : Nat) : Text := (digits n).map digitChar

/-- An integer in decimal, with a minus sign if it is negative. -/
def ofInt (n : Int) : Text :=
  if n < 0 then '-' :: ofNat n.natAbs else ofNat n.natAbs

/-- The number that a list of digits denotes. -/
def value (ds : List Nat) : Nat := ds.foldl (fun acc d => acc * 10 + d) 0

/-- The decimal exponent of the leading digit of a positive ratio. -/
def floorLog10 (num den : Nat) : Int :=
  let k : Int := ((digits num).length : Int) - (digits den).length
  if den * Nat.pow 10 k.toNat ≤ num * Nat.pow 10 (-k).toNat then k else k - 1

/-- A number of zeros. -/
def zeros (count : Nat) : Text := List.replicate count '0'

/-- A number with zeros in front up to a width. -/
def padded (width n : Nat) : Text := zeros (width - (ofNat n).length) ++ ofNat n

/-- Digits with a point after the first one, unless that is the only one. -/
def mantissa : Text → Text
  | [] => []
  | [d] => [d]
  | d :: rest => d :: '.' :: rest

/-- An exponent with its mark and sign, of at least the given number of digits. -/
def exponent (width : Nat) (power : Int) : Text :=
  (if power < 0 then "e-" else "e+") ++ padded width power.natAbs

end Decimal

namespace Binary64

/-- A decimal number `digits * 10 ^ power`. -/
structure DecimalForm where
  digits : Nat
  power : Int
  deriving DecidableEq, Repr

/-- The exact decimal expansion of a finite magnitude. -/
def exactDecimal (x : Binary64) : DecimalForm :=
  if 0 ≤ x.scale then ⟨x.significand * Nat.pow 2 x.scale.toNat, 0⟩
  else ⟨x.significand * Nat.pow 5 (-x.scale).toNat, x.scale⟩

/-- Whether a decimal reads back as the magnitude of a number. -/
def readsBack (x : Binary64) (d : DecimalForm) : Bool :=
  ofDecimal false d.digits d.power == x.magnitude

/--
The decimal on the grid of `10 ^ power` that reads back as a positive finite number: of the two
neighbours of the number on the grid the nearer one that does, the even one on a tie.
-/
def onGrid (x : Binary64) (power : Int) : Option DecimalForm :=
  let size := x.ratio
  let num := size.1 * Nat.pow 10 (-power).toNat
  let den := size.2 * Nat.pow 10 power.toNat
  let below := num / den
  let nearest := roundQuotient num den
  let other := if nearest = below then below + 1 else below
  if readsBack x ⟨nearest, power⟩ then some ⟨nearest, power⟩
  else if readsBack x ⟨other, power⟩ then some ⟨other, power⟩
  else none

/-- Move trailing zeros of the digits into the power, within a number of steps. -/
def DecimalForm.trim : Nat → DecimalForm → DecimalForm
  | 0, d => d
  | steps + 1, d =>
    if d.digits ≠ 0 ∧ d.digits % 10 = 0 then trim steps ⟨d.digits / 10, d.power + 1⟩ else d

/-- The fewest digits, seventeen at most, that read back as a positive finite number. -/
def shortestDecimal (x : Binary64) : DecimalForm :=
  let lead := Decimal.floorLog10 x.ratio.1 x.ratio.2
  let found := (List.range 17).findSome? fun (n : Nat) => onGrid x (lead - n)
  (found.getD (exactDecimal x)).trim 17

end Binary64

/-- How a binary number is spelled in decimal. -/
structure DecimalStyle where
  /-- The least exponent of a leading digit that is written positionally. -/
  positionalFrom : Int
  /-- The exponent of a leading digit from which on an exponent is written. -/
  positionalBelow : Int
  /-- The least number of digits of an exponent. -/
  exponentWidth : Nat
  notANumber : Text
  infinite : Text

namespace DecimalStyle

/-- Digits with a point after the first `whole` of them, padded with zeros on either side. -/
def positional (ds : Text) (lead : Int) : Text :=
  if lead < 0 then "0." ++ Decimal.zeros ((-lead).toNat - 1) ++ ds
  else
    let whole := lead.toNat + 1
    if ds.length ≤ whole then ds ++ Decimal.zeros (whole - ds.length) ++ ".0"
    else ds.take whole ++ "." ++ ds.drop whole

/-- One digit, the rest behind a point, and the exponent with its sign. -/
def scientific (style : DecimalStyle) (ds : Text) (lead : Int) : Text :=
  Decimal.mantissa ds ++ Decimal.exponent style.exponentWidth lead

/-- The text of a positive finite number in a style. -/
def ofMagnitude (style : DecimalStyle) (x : Binary64) : Text :=
  let form := x.shortestDecimal
  let ds := Decimal.ofNat form.digits
  let lead := form.power + ds.length - 1
  if style.positionalFrom ≤ lead ∧ lead < style.positionalBelow then positional ds lead
  else scientific style ds lead

/-- The text of a number in a style. -/
def write (style : DecimalStyle) (x : Binary64) : Text :=
  if x.isNaN then style.notANumber
  else
    let size :=
      if !x.isFinite then style.infinite
      else if x.isZero then "0.0"
      else ofMagnitude style x
    if x.negative then '-' :: size else size

end DecimalStyle

namespace Binary64

/-- The minus of a negative number. -/
def signText (x : Binary64) : Text := if x.negative then "-" else ""

/-- A finite number rounded to a number of places behind the point, all of which are written; a half
goes to the even neighbour. -/
def fixed (places : Nat) (x : Binary64) : Text :=
  let unit := Nat.pow 10 places
  let scaled := roundQuotient (x.ratio.1 * unit) x.ratio.2
  x.signText ++ Decimal.ofNat (scaled / unit) ++ "." ++ Decimal.padded places (scaled % unit)

/-- A positive finite number as so many digits behind its leading one and the exponent of the
leading one; a half goes to the even neighbour. -/
def roundedLead (places : Nat) (x : Binary64) : Nat × Int :=
  let lead := Decimal.floorLog10 x.ratio.1 x.ratio.2
  let shift := lead - places
  let scaled :=
    roundQuotient (x.ratio.1 * Nat.pow 10 (-shift).toNat) (x.ratio.2 * Nat.pow 10 shift.toNat)
  if scaled = Nat.pow 10 (places + 1) then (Nat.pow 10 places, lead + 1) else (scaled, lead)

/-- A finite number with one digit before the point, a number of places behind it and an exponent of
two digits or more. -/
def scientific (places : Nat) (x : Binary64) : Text :=
  let rounded := if x.isZero then (0, 0) else roundedLead places x
  x.signText ++ Decimal.mantissa (Decimal.padded (places + 1) rounded.1) ++
    Decimal.exponent 2 rounded.2

end Binary64

end ConversionRelay
