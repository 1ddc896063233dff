import ConversionRelay.Proofs.Number.Rounding
import ConversionRelay.Proofs.Text.Case
import ConversionRelay.Text.Numeral
import Mathlib.Data.Nat.Digits.Lemmas
/-!
What decimal text denotes.

The digits that are written of a natural number are those of its expansion to the base ten, so they
denote it again, none of them is missing in front, and no text of digits is shorter. The decimal that
is chosen for a binary number is either tested by reading it back or is the exact expansion of the
number, and zeros may be moved between its digits and its power.

Main statements: the digits of a number denote it (`plainNatural_ofNat`), and the shortest decimal of
a finite number reads back as that number (`ofDecimal_shortestDecimal`).
-/
namespace ConversionRelay

namespace Decimal

open Text

section Digits

theorem reversedDigits_eq {steps n : Nat} (enough : n < 2 ^ steps) :
    reversedDigits steps n = Nat.digits 10 n := by
  induction steps generalizing n with
  | zero =>
    have none : n = 0 := by simpa using enough
    subst none
    rfl
  | succ steps ih =>
    rw [reversedDigits]
    split
    · rename_i none
      subst none
      rfl
    · rename_i some
      have fewer : n / 10 < 2 ^ steps := by
        rw [pow_succ] at enough
        omega
      rw [ih fewer, ← Nat.digits_of_two_le_of_pos (by decide) (Nat.pos_of_ne_zero some)]

theorem digits_of_pos {n : Nat} (positive : 0 < n) : digits n = (Nat.digits 10 n).reverse := by
  rw [digits, if_neg (Nat.pos_iff_ne_zero.mp positive), reversedDigits_eq Nat.lt_log2_self]

theorem lt_ten_of_mem_digits {n d : Nat} (member : d ∈ digits n) : d < 10 := by
  by_cases none : n = 0
  · rw [digits, if_pos none] at member
    rw [List.mem_singleton.mp member]
    decide
  · rw [digits_of_pos (Nat.pos_of_ne_zero none), List.mem_reverse] at member
    exact Nat.digits_lt_base (by decide) member

theorem code_digitChar {d : Nat} (digit : d < 10) : (digitChar d).code = 48 + d :=
  CodePoint.code_ofCode (by omega)

theorem digitValue_digitChar {d : Nat} (digit : d < 10) : (digitChar d).digitValue = d := by
  rw [CodePoint.digitValue, code_digitChar digit]
  omega

theorem isDigit_digitChar : ∀ d, d < 10 → (digitChar d).isDigit = true := by decide

/-- The digits of ASCII stand in a row. -/
theorem code_of_isDigit {c : CodePoint} (digit : c.isDigit = true) :
    0x30 ≤ c.code ∧ c.code ≤ 0x39 := by
  cases c with
  | surrogate half => cases digit
  | char c =>
    simp only [CodePoint.isDigit, CodePoint.isChar, Char.isDigit, Bool.and_eq_true,
      decide_eq_true_eq, ge_iff_le] at digit
    exact digit

theorem digitValue_lt {c : CodePoint} (digit : c.isDigit = true) : c.digitValue < 10 := by
  obtain ⟨_, upTo⟩ := code_of_isDigit digit
  rw [CodePoint.digitValue]
  omega

end Digits

section Denotation

theorem foldl_digitValue (s : Text) (acc : Nat) :
    s.foldl (fun acc c => acc * 10 + c.digitValue) acc = acc * 10 ^ s.length + plainNatural s := by
  induction s generalizing acc with
  | nil => simp [plainNatural]
  | cons c rest ih =>
    have whole : plainNatural (c :: rest) =
        (0 * 10 + c.digitValue) * 10 ^ rest.length + plainNatural rest := ih _
    rw [List.foldl_cons, ih, whole, List.length_cons, pow_succ]
    ring

/-- What stands in front counts as often as the places behind it say. -/
theorem plainNatural_append (s t : Text) :
    plainNatural (s ++ t) = plainNatural s * 10 ^ t.length + plainNatural t := by
  rw [plainNatural, List.foldl_append, foldl_digitValue]
  rfl

theorem plainNatural_zeros (count : Nat) : plainNatural (zeros count) = 0 := by
  induction count with
  | zero => rfl
  | succ count ih =>
    have shape : zeros (count + 1) = [CodePoint.char '0'] ++ zeros count := rfl
    rw [shape, plainNatural_append, ih]
    simp [plainNatural, CodePoint.digitValue, CodePoint.code]

theorem plainNatural_map_digitChar {ds : List Nat} (small : ∀ d ∈ ds, d < 10) :
    plainNatural (ds.map digitChar) = Nat.ofDigits 10 ds.reverse := by
  induction ds with
  | nil => rfl
  | cons d rest ih =>
    have own : plainNatural [digitChar d] = d := by
      simp [plainNatural, digitValue_digitChar (small d List.mem_cons_self)]
    have shape : (d :: rest).map digitChar = [digitChar d] ++ rest.map digitChar := rfl
    rw [shape, plainNatural_append, ih fun other member => small other (List.mem_cons_of_mem d member),
      own, List.reverse_cons, Nat.ofDigits_append, List.length_map, List.length_reverse,
      Nat.ofDigits_singleton]
    ring

/-- The digits of a number denote it. -/
theorem plainNatural_ofNat (n : Nat) : plainNatural (ofNat n) = n := by
  rw [ofNat, plainNatural_map_digitChar fun _ => lt_ten_of_mem_digits]
  by_cases none : n = 0
  · subst none
    rfl
  · rw [digits_of_pos (Nat.pos_of_ne_zero none), List.reverse_reverse, Nat.ofDigits_digits]

theorem plainNatural_padded (width n : Nat) : plainNatural (padded width n) = n := by
  rw [padded, plainNatural_append, plainNatural_zeros, plainNatural_ofNat, Nat.zero_mul,
    Nat.zero_add]

theorem plainNatural_lt {s : Text} (digits : ∀ c ∈ s, c.isDigit = true) :
    plainNatural s < 10 ^ s.length := by
  induction s with
  | nil => exact Nat.one_pos
  | cons c rest ih =>
    have own := digitValue_lt (digits c List.mem_cons_self)
    have later := ih fun other member => digits other (List.mem_cons_of_mem c member)
    have shape : c :: rest = [c] ++ rest := rfl
    have head : plainNatural [c] = c.digitValue := by simp [plainNatural]
    rw [shape, plainNatural_append, head, ← shape, List.length_cons, pow_succ]
    calc c.digitValue * 10 ^ rest.length + plainNatural rest
        < c.digitValue * 10 ^ rest.length + 10 ^ rest.length := Nat.add_lt_add_left later _
      _ = (c.digitValue + 1) * 10 ^ rest.length := by ring
      _ ≤ 10 * 10 ^ rest.length := Nat.mul_le_mul_right _ own
      _ = 10 ^ rest.length * 10 := Nat.mul_comm _ _

end Denotation

section Shape

theorem isDigit_of_mem_ofNat {n : Nat} : ∀ c ∈ ofNat n, c.isDigit = true := by
  intro c member
  obtain ⟨d, isDigit, rfl⟩ := List.mem_map.mp member
  exact isDigit_digitChar d (lt_ten_of_mem_digits isDigit)

theorem isDigit_of_mem_zeros {count : Nat} : ∀ c ∈ zeros count, c.isDigit = true := by
  intro c member
  rw [List.eq_of_mem_replicate member]
  decide

theorem isDigit_of_mem_padded {width n : Nat} : ∀ c ∈ padded width n, c.isDigit = true := by
  intro c member
  rcases List.mem_append.mp member with zero | digit
  · exact isDigit_of_mem_zeros c zero
  · exact isDigit_of_mem_ofNat c digit

theorem ofNat_ne_nil (n : Nat) : ofNat n ≠ [] := by
  intro none
  have nothing : digits n = [] := List.map_eq_nil_iff.mp none
  by_cases zero : n = 0
  · subst zero
    cases nothing
  · rw [digits_of_pos (Nat.pos_of_ne_zero zero), List.reverse_eq_nil_iff,
      Nat.digits_eq_nil_iff_eq_zero] at nothing
    exact zero nothing

theorem padded_ne_nil (width n : Nat) : padded width n ≠ [] := fun none =>
  ofNat_ne_nil n (List.append_eq_nil_iff.mp none).2

/-- The first digit of a positive number is not zero. -/
theorem ofNat_opens {n : Nat} (positive : 0 < n) :
    ∃ c rest, ofNat n = c :: rest ∧ c ≠ '0' := by
  have some : Nat.digits 10 n ≠ [] := Nat.digits_ne_nil_iff_ne_zero.mpr positive.ne'
  have split : digits n = (Nat.digits 10 n).getLast some :: (Nat.digits 10 n).dropLast.reverse := by
    rw [digits_of_pos positive]
    conv => lhs; rw [← List.dropLast_append_getLast some]
    rw [List.reverse_append]
    rfl
  refine ⟨digitChar ((Nat.digits 10 n).getLast some), _, by rw [ofNat, split]; rfl, fun zero => ?_⟩
  have small : (Nat.digits 10 n).getLast some < 10 :=
    Nat.digits_lt_base (by decide) (List.getLast_mem some)
  have none : (Nat.digits 10 n).getLast some = 0 := by
    rw [← digitValue_digitChar small, zero]
    rfl
  exact Nat.getLast_digit_ne_zero 10 positive.ne' none

/-- No text of digits is shorter than the digits of what it denotes. -/
theorem length_ofNat_le {s : Text} (digits : ∀ c ∈ s, c.isDigit = true) (nonempty : s ≠ []) :
    (ofNat (plainNatural s)).length ≤ s.length := by
  rw [ofNat, List.length_map]
  by_cases none : plainNatural s = 0
  · rw [none]
    exact List.length_pos_iff.mpr nonempty
  · rw [digits_of_pos (Nat.pos_of_ne_zero none), List.length_reverse,
      Nat.digits_length_le_iff (by decide)]
    exact plainNatural_lt digits

theorem length_ofNat_pow (k : Nat) : (ofNat (10 ^ k)).length = k + 1 := by
  have positive : 0 < 10 ^ k := Nat.pow_pos (by decide)
  rw [ofNat, List.length_map, digits_of_pos positive, List.length_reverse,
    Nat.length_digits 10 _ (by decide) positive.ne', Nat.log_pow (by decide)]

end Shape

end Decimal

namespace Binary64

theorem pack_negative (negative : Bool) (m : Nat) (unit : Int) :
    pack negative m unit = { pack false m unit with negative } := by
  simp only [pack]
  split
  · rfl
  · generalize (if m = 2 * leadingBit then (1 : Int) else 0) = carry
    by_cases fits : unit + 1075 + carry < 2047
    · rw [if_pos fits, if_pos fits]
    · rw [if_neg fits, if_neg fits]
      rfl

/-- The sign of a decimal is the sign of what it is read as. -/
theorem ofDecimal_negative (negative : Bool) (digits : Nat) (power : Int) :
    ofDecimal negative digits power = { ofDecimal false digits power with negative } := by
  rw [ofDecimal_eq_ofRatio, ofDecimal_eq_ofRatio]
  simp only [ofRatio]
  split
  · rfl
  · exact pack_negative negative _ _

/-- Moving zeros from the digits into the power keeps what a decimal is read as. -/
theorem ofDecimal_trim (negative : Bool) (steps : Nat) (d : DecimalForm) :
    ofDecimal negative (d.trim steps).digits (d.trim steps).power =
      ofDecimal negative d.digits d.power := by
  induction steps generalizing d with
  | zero => rfl
  | succ steps ih =>
    rw [DecimalForm.trim]
    split
    · rename_i ends
      rw [ih]
      have whole : d.digits = d.digits / 10 * 10 ^ 1 := by omega
      have moved := ofDecimal_shift negative (d.digits / 10) 1 (d.power + 1)
      rw [← whole] at moved
      rw [← moved]
      congr 1
      push_cast
      ring
    · rfl

theorem trim_digits_pos {d : DecimalForm} (positive : 0 < d.digits) (steps : Nat) :
    0 < (d.trim steps).digits := by
  induction steps generalizing d with
  | zero => exact positive
  | succ steps ih =>
    rw [DecimalForm.trim]
    split
    · rename_i ends
      exact ih (show 0 < d.digits / 10 by omega)
    · exact positive

variable {x : Binary64}

/-- A decimal on a grid has been read back. -/
theorem ofDecimal_of_onGrid {power : Int} {d : DecimalForm} (found : onGrid x power = some d) :
    ofDecimal false d.digits d.power = x.magnitude := by
  obtain ⟨nearest, other, tries⟩ : ∃ nearest other, onGrid x power =
      if readsBack x nearest then some nearest
      else if readsBack x other then some other else none := ⟨_, _, rfl⟩
  rw [tries] at found
  split at found
  · rename_i reads
    cases found
    exact eq_of_beq reads
  split at found
  · rename_i reads
    cases found
    exact eq_of_beq reads
  · cases found

theorem ofDecimal_exactDecimal (finite : x.isFinite = true) (present : x.isZero = false) :
    ofDecimal false x.exactDecimal.digits x.exactDecimal.power = x.magnitude := by
  have whole : ofRatio false x.ratio.1 x.ratio.2 = x.magnitude :=
    ofRatio_ratio false finite present
  rw [← whole, ofDecimal_eq_ofRatio]
  refine ofRatio_congr false (by positivity) (ratio_pos present).2 ?_
  rw [ratio_eq]
  unfold exactDecimal
  split
  · rename_i large
    rw [show (-x.scale).toNat = 0 by omega]
    simp
  · rename_i small
    -- Ten to a power is five and two to that power, and the two cancel the denominator.
    have tens : (10 : Nat) ^ (-x.scale).toNat = 5 ^ (-x.scale).toNat * 2 ^ (-x.scale).toNat := by
      rw [← Nat.mul_pow]
    rw [show x.scale.toNat = 0 by omega, tens]
    simp only [Nat.pow_eq]
    ring

/-- A decimal that is read as something other than zero has digits. -/
theorem digits_pos_of_ofDecimal {d : DecimalForm} (present : x.isZero = false)
    (reads : ofDecimal false d.digits d.power = x.magnitude) : 0 < d.digits := by
  by_contra none
  have noDigits : d.digits = 0 := by omega
  rw [noDigits, ofDecimal, if_pos rfl] at reads
  have isZero : x.magnitude.isZero = true := reads ▸ isZero_zero false
  exact Bool.false_ne_true (present.symm.trans isZero)

/-- The shortest decimal of a number has digits, and reads back as that number. -/
theorem ofDecimal_shortestDecimal (finite : x.isFinite = true) (present : x.isZero = false) :
    0 < x.shortestDecimal.digits ∧
      ofDecimal x.negative x.shortestDecimal.digits x.shortestDecimal.power = x := by
  obtain ⟨d, is, reads⟩ : ∃ d : DecimalForm, x.shortestDecimal = d.trim 17 ∧
      ofDecimal false d.digits d.power = x.magnitude := by
    unfold shortestDecimal
    dsimp only
    generalize tested : List.findSome? _ (List.range 17) = found
    refine ⟨found.getD x.exactDecimal, rfl, ?_⟩
    cases found with
    | none => exact ofDecimal_exactDecimal finite present
    | some d =>
      obtain ⟨n, _, onGrid⟩ := List.exists_of_findSome?_eq_some tested
      exact ofDecimal_of_onGrid onGrid
  rw [is, ofDecimal_trim, ofDecimal_negative, reads]
  exact ⟨trim_digits_pos (digits_pos_of_ofDecimal present reads) 17, rfl⟩

end Binary64

end ConversionRelay
