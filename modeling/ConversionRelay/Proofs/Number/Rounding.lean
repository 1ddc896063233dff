import ConversionRelay.Number.Binary64
import Mathlib.Algebra.Order.Field.Power
import Mathlib.Data.Int.Log
import Mathlib.Data.Rat.Floor
import Mathlib.Tactic.Linarith
import Mathlib.Tactic.Positivity
import Mathlib.Tactic.Ring
/-!
Rounding a ratio to a binary number.

Rounding looks at nothing but the value of a ratio: the power of two below it and the quotient that
is rounded are the same for every way to write the ratio (`ofRatio_congr`). A finite number is
therefore what any ratio of its value rounds to.

Main statements: the ratio of a finite number rounds to that number (`ofRatio_ratio`), and a decimal
is rounded as the ratio that it stands for, however large or small it is (`ofDecimal_eq_ofRatio`).
-/
namespace ConversionRelay.Binary64

section Quotients

theorem roundQuotient_scale {k : Nat} (positive : 0 < k) (num den : Nat) :
    roundQuotient (k * num) (k * den) = roundQuotient num den := by
  have quotient : k * num / (k * den) = num / den := Nat.mul_div_mul_left num den positive
  have remainder : k * num % (k * den) = k * (num % den) := Nat.mul_mod_mul_left k num den
  have above : k * den < 2 * (k * (num % den)) ↔ den < 2 * (num % den) := by
    rw [Nat.mul_left_comm, Nat.mul_lt_mul_left positive]
  have between : k * den = 2 * (k * (num % den)) ↔ den = 2 * (num % den) := by
    rw [Nat.mul_left_comm, Nat.mul_right_inj (Nat.pos_iff_ne_zero.mp positive)]
  simp only [roundQuotient, quotient, remainder, above, between]

theorem roundQuotient_mul_self {den : Nat} (positive : 0 < den) (n : Nat) :
    roundQuotient (n * den) den = n := by
  simp [roundQuotient, Nat.mul_div_cancel n positive, Nat.pos_iff_ne_zero.mp positive]

theorem div_le_roundQuotient (num den : Nat) : num / den ≤ roundQuotient num den := by
  simp only [roundQuotient]
  split <;> omega

/-- Less than half is rounded to nothing. -/
theorem roundQuotient_eq_zero {num den : Nat} (small : 2 * num < den) :
    roundQuotient num den = 0 := by
  have floor : num / den = 0 := Nat.div_eq_of_lt (by omega)
  have rest : num % den = num := Nat.mod_eq_of_lt (by omega)
  have below : ¬ (den < 2 * num ∨ den = 2 * num ∧ 0 % 2 = 1) := by omega
  simp only [roundQuotient, floor, rest, if_neg below]

end Quotients

section Logarithm

/-- A comparison with a power of two, whose negative part stands on the other side. -/
theorem mul_pow_le_iff {num den : Nat} (positive : 0 < den) (k : Int) :
    den * 2 ^ k.toNat ≤ num * 2 ^ (-k).toNat ↔ (2 : ℚ) ^ k ≤ (num : ℚ) / den := by
  have den_pos : (0 : ℚ) < den := by exact_mod_cast positive
  rw [le_div_iff₀ den_pos]
  have split : (2 : ℚ) ^ k * 2 ^ (-k).toNat = 2 ^ k.toNat := by
    rw [← zpow_natCast, ← zpow_natCast, ← zpow_add₀ (by norm_num)]
    congr 1
    omega
  have scaled : (2 : ℚ) ^ k * den * 2 ^ (-k).toNat = den * 2 ^ k.toNat := by
    rw [← split]
    ring
  rw [← mul_le_mul_iff_of_pos_right (show (0 : ℚ) < 2 ^ (-k).toNat by positivity), scaled]
  exact_mod_cast Iff.rfl

/-- The power of two below a ratio is that below its value. -/
theorem floorLog2_eq_log {num den : Nat} (num_pos : 0 < num) (den_pos : 0 < den) :
    floorLog2 num den = Int.log 2 ((num : ℚ) / den) := by
  have value_pos : (0 : ℚ) < (num : ℚ) / den := by positivity
  have below (n : Nat) (positive : 0 < n) : (2 : ℚ) ^ n.log2 ≤ n := by
    exact_mod_cast Nat.log2_self_le (Nat.pos_iff_ne_zero.mp positive)
  have above (n : Nat) : (n : ℚ) < 2 ^ (n.log2 + 1) := by exact_mod_cast Nat.lt_log2_self
  let k : Int := (num.log2 : Int) - den.log2
  have least : (2 : ℚ) ^ (k - 1) ≤ (num : ℚ) / den := by
    have shift : (2 : ℚ) ^ (k - 1) * 2 ^ (den.log2 + 1) = 2 ^ num.log2 := by
      rw [← zpow_natCast, ← zpow_natCast, ← zpow_add₀ (by norm_num)]
      congr 1
      simp only [k]
      omega
    rw [le_div_iff₀ (by positivity)]
    calc (2 : ℚ) ^ (k - 1) * den ≤ 2 ^ (k - 1) * 2 ^ (den.log2 + 1) :=
          mul_le_mul_of_nonneg_left (above den).le (by positivity)
      _ = 2 ^ num.log2 := shift
      _ ≤ num := below num num_pos
  have most : (num : ℚ) / den < 2 ^ (k + 1) := by
    have shift : (2 : ℚ) ^ (k + 1) * 2 ^ den.log2 = 2 ^ (num.log2 + 1) := by
      rw [← zpow_natCast, ← zpow_natCast, ← zpow_add₀ (by norm_num)]
      congr 1
      simp only [k]
      omega
    rw [div_lt_iff₀ (by positivity)]
    calc (num : ℚ) < 2 ^ (num.log2 + 1) := above num
      _ = 2 ^ (k + 1) * 2 ^ den.log2 := shift.symm
      _ ≤ 2 ^ (k + 1) * den := mul_le_mul_of_nonneg_left (below den den_pos) (by positivity)
  have unique (l : Int) (low : (2 : ℚ) ^ l ≤ (num : ℚ) / den)
      (high : (num : ℚ) / den < 2 ^ (l + 1)) : l = Int.log 2 ((num : ℚ) / den) := by
    have reached := (Int.zpow_le_iff_le_log (b := 2) (by norm_num) value_pos).mp low
    have passed := (Int.lt_zpow_iff_log_lt (b := 2) (by norm_num) value_pos).mp high
    omega
  simp only [floorLog2, Nat.pow_eq]
  split
  · rename_i reached
    exact unique k ((mul_pow_le_iff den_pos k).mp reached) most
  · rename_i missed
    refine unique (k - 1) least ?_
    rw [sub_add_cancel]
    exact lt_of_not_ge fun reached => missed ((mul_pow_le_iff den_pos k).mpr reached)

end Logarithm

section Ratios

theorem ofRatio_zero (negative : Bool) (den : Nat) : ofRatio negative 0 den = zero negative :=
  if_pos rfl

/-- A ratio is rounded in its unit. -/
theorem ofRatio_of_ne (negative : Bool) {num : Nat} (some : num ≠ 0) (den : Nat) {unit : Int}
    (is : max (floorLog2 num den - 52) (-1074) = unit) : ofRatio negative num den =
      pack negative (roundQuotient (num * 2 ^ (-unit).toNat) (den * 2 ^ unit.toNat)) unit := by
  subst is
  exact if_neg some

theorem ofRatio_scale {k : Nat} (positive : 0 < k) (negative : Bool) {den : Nat}
    (den_pos : 0 < den) (num : Nat) :
    ofRatio negative (k * num) (k * den) = ofRatio negative num den := by
  by_cases none : num = 0
  · rw [none, Nat.mul_zero, ofRatio_zero, ofRatio_zero]
  have num_pos : 0 < num := Nat.pos_iff_ne_zero.mpr none
  have same : floorLog2 (k * num) (k * den) = floorLog2 num den := by
    rw [floorLog2_eq_log (Nat.mul_pos positive num_pos) (Nat.mul_pos positive den_pos),
      floorLog2_eq_log num_pos den_pos]
    congr 1
    push_cast
    exact mul_div_mul_left _ _ (by exact_mod_cast Nat.pos_iff_ne_zero.mp positive)
  have some : k * num ≠ 0 := (Nat.mul_pos positive num_pos).ne'
  rw [ofRatio_of_ne negative some (k * den) rfl, ofRatio_of_ne negative none den rfl, same,
    Nat.mul_assoc, Nat.mul_assoc, roundQuotient_scale positive]

/-- Ratios of one value round to one number. -/
theorem ofRatio_congr (negative : Bool) {num den num' den' : Nat} (den_pos : 0 < den)
    (den_pos' : 0 < den') (same : num * den' = num' * den) :
    ofRatio negative num den = ofRatio negative num' den' := by
  rw [← ofRatio_scale den_pos' negative den_pos, ← ofRatio_scale den_pos negative den_pos',
    Nat.mul_comm den' num, same, Nat.mul_comm num' den, Nat.mul_comm den' den]

theorem significand_pos {x : Binary64} (present : x.isZero = false) : 0 < x.significand := by
  unfold significand
  split
  · rename_i small
    have some : x.fraction ≠ 0 := by
      intro none
      simp [isZero, small, none] at present
    exact Nat.pos_of_ne_zero fun none => some (Fin.ext none)
  · exact Nat.lt_of_lt_of_le (by decide) (Nat.le_add_right _ _)

theorem ratio_pos {x : Binary64} (present : x.isZero = false) :
    0 < x.ratio.1 ∧ 0 < x.ratio.2 := by
  have positive := significand_pos present
  unfold ratio
  split
  · exact ⟨Nat.mul_pos positive (Nat.pow_pos (by decide)), Nat.one_pos⟩
  · exact ⟨positive, Nat.pow_pos (by decide)⟩

/-- The parts of a ratio, the scale of which stands on one side only. -/
theorem ratio_eq (x : Binary64) :
    x.ratio = (x.significand * 2 ^ x.scale.toNat, 2 ^ (-x.scale).toNat) := by
  unfold ratio
  split
  · rename_i large
    rw [show (-x.scale).toNat = 0 by omega]
    rfl
  · rename_i small
    rw [show x.scale.toNat = 0 by omega, pow_zero, Nat.mul_one]
    rfl

/-- The unit of a number with a significand is the scale of that number. -/
theorem unit_eq_scale {x : Binary64} (present : x.isZero = false) :
    max (floorLog2 x.ratio.1 x.ratio.2 - 52) (-1074) = x.scale := by
  have positive := significand_pos present
  obtain ⟨num_pos, den_pos⟩ := ratio_pos present
  have value : (x.ratio.1 : ℚ) / x.ratio.2 = x.significand * 2 ^ x.scale := by
    have split : (2 : ℚ) ^ x.scale * 2 ^ (-x.scale).toNat = 2 ^ x.scale.toNat := by
      rw [← zpow_natCast, ← zpow_natCast, ← zpow_add₀ (by norm_num)]
      congr 1
      omega
    rw [ratio_eq, div_eq_iff (by positivity)]
    push_cast
    rw [mul_assoc, split]
  have log : floorLog2 x.ratio.1 x.ratio.2 = x.significand.log2 + x.scale := by
    have value_pos : (0 : ℚ) < (x.significand : ℚ) * 2 ^ x.scale := by positivity
    have low : (2 : ℚ) ^ (x.significand.log2 : Int) ≤ x.significand := by
      exact_mod_cast Nat.log2_self_le (Nat.pos_iff_ne_zero.mp positive)
    have high : (x.significand : ℚ) < 2 ^ ((x.significand.log2 : Int) + 1) := by
      exact_mod_cast Nat.lt_log2_self (n := x.significand)
    rw [floorLog2_eq_log num_pos den_pos, value]
    have reached := (Int.zpow_le_iff_le_log (b := 2) (x := x.significand.log2 + x.scale)
      (by norm_num) value_pos).mp (by
        push_cast
        rw [zpow_add₀ (by norm_num)]
        exact mul_le_mul_of_nonneg_right low (by positivity))
    have passed := (Int.lt_zpow_iff_log_lt (b := 2) (x := x.significand.log2 + x.scale + 1)
      (by norm_num) value_pos).mp (by
        push_cast
        rw [add_right_comm, zpow_add₀ (by norm_num)]
        exact mul_lt_mul_of_pos_right high (by positivity))
    omega
  rw [log]
  have fraction := x.fraction.isLt
  by_cases small : x.exponent = 0
  · have bound : x.significand.log2 < 52 := by
      rw [Nat.log2_lt (Nat.pos_iff_ne_zero.mp positive), significand, if_pos small]
      exact fraction
    have least : x.scale = -1074 := by simp [scale, small]
    omega
  · have some : 0 < x.exponent.val := Nat.pos_of_ne_zero fun none => small (Fin.ext none)
    have bounds : leadingBit ≤ x.significand ∧ x.significand < 2 * leadingBit := by
      rw [significand, if_neg small]
      omega
    have low : 52 ≤ x.significand.log2 :=
      (Nat.le_log2 (Nat.pos_iff_ne_zero.mp positive)).mpr bounds.1
    have high : x.significand.log2 < 53 :=
      (Nat.log2_lt (Nat.pos_iff_ne_zero.mp positive)).mpr bounds.2
    have least : -1074 ≤ x.scale := by
      simp only [scale]
      omega
    omega

/-- The significand of a finite number in units of its scale makes that number. -/
theorem pack_significand (negative : Bool) {x : Binary64} (finite : x.isFinite = true) :
    pack negative x.significand x.scale = { x with negative } := by
  have fraction := x.fraction.isLt
  have exponent := x.exponent.isLt
  have below : x.exponent.val ≠ 2047 := by
    intro same
    have infinite : x.exponent = 2047 := Fin.ext same
    simp [isFinite, infinite] at finite
  by_cases small : x.exponent = 0
  · have is : x.significand = x.fraction := by rw [significand, if_pos small]
    rw [pack, if_pos (is ▸ fraction), is, Fin.ofNat_val_eq_self]
    rw [small]
  · have some : 0 < x.exponent.val := Nat.pos_of_ne_zero fun none => small (Fin.ext none)
    have is : x.significand = leadingBit + x.fraction := by rw [significand, if_neg small]
    have notCarried : ¬ x.significand = 2 * leadingBit := by omega
    have biased : x.scale + 1075 = x.exponent.val := by
      simp only [scale]
      omega
    have unbiased : (x.scale + 1075 + 0).toNat = x.exponent.val := by omega
    have rest : x.significand - leadingBit = x.fraction := by omega
    rw [pack, if_neg (by omega)]
    simp only [notCarried, if_false, if_pos (show x.scale + 1075 + 0 < 2047 by omega), unbiased,
      rest, Fin.ofNat_val_eq_self]

/-- The ratio of a finite number rounds to that number, under either sign. -/
theorem ofRatio_ratio (negative : Bool) {x : Binary64} (finite : x.isFinite = true)
    (present : x.isZero = false) :
    ofRatio negative x.ratio.1 x.ratio.2 = { x with negative } := by
  have some : x.ratio.1 ≠ 0 := (ratio_pos present).1.ne'
  have exact : roundQuotient (x.ratio.1 * 2 ^ (-x.scale).toNat)
      (x.ratio.2 * 2 ^ x.scale.toNat) = x.significand := by
    rw [ratio_eq]
    have regroup : x.significand * 2 ^ x.scale.toNat * 2 ^ (-x.scale).toNat =
        x.significand * (2 ^ (-x.scale).toNat * 2 ^ x.scale.toNat) := by ring
    rw [regroup, roundQuotient_mul_self (by positivity)]
  rw [ofRatio_of_ne negative some x.ratio.2 (unit_eq_scale present), exact,
    pack_significand negative finite]

end Ratios

section Decimals

/-- A ratio that is too large for every finite number rounds to infinity. -/
theorem ofRatio_of_large (negative : Bool) {num den : Nat} (den_pos : 0 < den)
    (large : den * 2 ^ 1024 ≤ num) : ofRatio negative num den = infinity negative := by
  have num_pos : 0 < num := Nat.lt_of_lt_of_le (Nat.mul_pos den_pos (by positivity)) large
  have value_pos : (0 : ℚ) < (num : ℚ) / den := by positivity
  let log := floorLog2 num den
  have high : 1024 ≤ log := by
    rw [show log = Int.log 2 ((num : ℚ) / den) from floorLog2_eq_log num_pos den_pos]
    refine (Int.zpow_le_iff_le_log (b := 2) (by norm_num) value_pos).mp ?_
    refine (mul_pow_le_iff den_pos 1024).mp ?_
    rw [show (-1024 : Int).toNat = 0 from rfl, show (1024 : Int).toNat = 1024 from rfl, pow_zero,
      Nat.mul_one]
    exact large
  have unit : max (log - 52) (-1074) = log - 52 := by omega
  have reaches : den * 2 ^ log.toNat ≤ num := by
    have exact_log : log = Int.log 2 ((num : ℚ) / den) := floorLog2_eq_log num_pos den_pos
    have below : (2 : ℚ) ^ log ≤ (num : ℚ) / den := by
      rw [exact_log]
      exact Int.zpow_log_le_self (by norm_num) value_pos
    have reached := (mul_pow_le_iff den_pos log).mpr below
    simpa [show (-log).toNat = 0 by omega] using reached
  have full : leadingBit ≤ roundQuotient (num * 2 ^ (-(log - 52)).toNat)
      (den * 2 ^ (log - 52).toNat) := by
    refine Nat.le_trans ?_ (div_le_roundQuotient _ _)
    rw [Nat.le_div_iff_mul_le (by positivity), show (-(log - 52)).toNat = 0 by omega, pow_zero,
      Nat.mul_one]
    refine Nat.le_trans (Nat.le_of_eq ?_) reaches
    rw [show log.toNat = 52 + (log - 52).toNat by omega, pow_add]
    ring
  have some : num ≠ 0 := num_pos.ne'
  rw [ofRatio_of_ne negative some den unit, pack, if_neg (Nat.not_lt.mpr full)]
  dsimp only
  rw [if_neg]
  split <;> omega

/-- A ratio that is too small for every positive number rounds to zero. -/
theorem ofRatio_of_small (negative : Bool) {num den : Nat} (small : num * 2 ^ 1076 ≤ den) :
    ofRatio negative num den = zero negative := by
  by_cases none : num = 0
  · rw [none, ofRatio_zero]
  have num_pos : 0 < num := Nat.pos_iff_ne_zero.mpr none
  have den_pos : 0 < den := Nat.lt_of_lt_of_le (Nat.mul_pos num_pos (by positivity)) small
  have value_pos : (0 : ℚ) < (num : ℚ) / den := by positivity
  have low : floorLog2 num den ≤ -1076 := by
    rw [floorLog2_eq_log num_pos den_pos]
    have bound : (num : ℚ) / den ≤ 2 ^ (-1076 : Int) := by
      rw [div_le_iff₀ (by positivity), zpow_neg, inv_mul_eq_div, le_div_iff₀ (by positivity)]
      exact_mod_cast small
    have passed := (Int.lt_zpow_iff_log_lt (b := 2) (x := -1075) (by norm_num) value_pos).mp
      (lt_of_le_of_lt bound (zpow_lt_zpow_right₀ (by norm_num) (by norm_num)))
    omega
  have unit : max (floorLog2 num den - 52) (-1074) = -1074 := by omega
  have vanishes : roundQuotient (num * 2 ^ (-(-1074 : Int)).toNat) (den * 2 ^ (-1074 : Int).toNat) =
      0 := by
    refine roundQuotient_eq_zero ?_
    rw [show (-(-1074 : Int)).toNat = 1074 from rfl, show (-1074 : Int).toNat = 0 from rfl, pow_zero,
      Nat.mul_one]
    refine Nat.lt_of_lt_of_le ?_ small
    have wider : 2 * 2 ^ 1074 < 2 ^ 1076 := by
      rw [← Nat.pow_succ']
      apply Nat.pow_lt_pow_right
      · decide
      · decide
    rw [Nat.mul_left_comm]
    exact Nat.mul_lt_mul_of_pos_left wider num_pos
  rw [ofRatio_of_ne negative none den unit, vanishes]
  rfl

/-- A power of ten is worth as many bits as thrice its exponent. -/
theorem two_pow_le_ten_pow {bits places : Nat} (few : bits ≤ 3 * places) :
    2 ^ bits ≤ 10 ^ places :=
  calc 2 ^ bits ≤ 2 ^ (3 * places) := Nat.pow_le_pow_right (by decide) few
    _ = (2 ^ 3) ^ places := Nat.pow_mul 2 3 places
    _ ≤ 10 ^ places := Nat.pow_le_pow_left (by decide) places

/-- A decimal is rounded as the ratio that it stands for. -/
theorem ofDecimal_eq_ofRatio (negative : Bool) (digits : Nat) (power : Int) :
    ofDecimal negative digits power =
      ofRatio negative (digits * 10 ^ power.toNat) (10 ^ (-power).toNat) := by
  unfold ofDecimal
  split
  · rename_i none
    rw [none, Nat.zero_mul, ofRatio_zero]
  rename_i some
  have digits_pos : 0 < digits := Nat.pos_iff_ne_zero.mpr some
  split
  · rename_i large
    refine (ofRatio_of_large negative (by positivity) ?_).symm
    rw [show (-power).toNat = 0 by omega, pow_zero, Nat.one_mul]
    calc 2 ^ 1024 ≤ 10 ^ 401 := two_pow_le_ten_pow (by decide)
      _ ≤ 10 ^ power.toNat := Nat.pow_le_pow_right (by decide) (by omega)
      _ ≤ digits * 10 ^ power.toNat := Nat.le_mul_of_pos_left _ digits_pos
  split
  · rename_i small
    refine (ofRatio_of_small negative ?_).symm
    rw [show power.toNat = 0 by omega, pow_zero, Nat.mul_one]
    -- Of the powers of ten, as many as the digits have bits are worth three bits each.
    calc digits * 2 ^ 1076 ≤ 2 ^ (digits.log2 + 1) * 2 ^ 1076 :=
          Nat.mul_le_mul_right _ Nat.lt_log2_self.le
      _ = 2 ^ digits.log2 * 2 ^ 1077 := by rw [← pow_add, ← pow_add]
      _ ≤ 10 ^ digits.log2 * 10 ^ 401 :=
          Nat.mul_le_mul (Nat.pow_le_pow_left (by decide) _) (two_pow_le_ten_pow (by decide))
      _ = 10 ^ (digits.log2 + 401) := (pow_add _ _ _).symm
      _ ≤ 10 ^ (-power).toNat := Nat.pow_le_pow_right (by decide) (by omega)
  · rfl

/-- Decimals of one value are rounded to one number. -/
theorem ofDecimal_shift (negative : Bool) (digits places : Nat) (power : Int) :
    ofDecimal negative (digits * 10 ^ places) (power - places) = ofDecimal negative digits power := by
  rw [ofDecimal_eq_ofRatio, ofDecimal_eq_ofRatio]
  refine ofRatio_congr negative (by positivity) (by positivity) ?_
  have exponents : places + (power - places).toNat + (-power).toNat =
      power.toNat + (-(power - places)).toNat := by omega
  rw [Nat.mul_assoc, Nat.mul_assoc, Nat.mul_assoc, ← pow_add, ← pow_add, ← pow_add,
    ← Nat.add_assoc, exponents]

theorem isNaN_pack (negative : Bool) (m : Nat) (unit : Int) :
    (pack negative m unit).isNaN = false := by
  unfold pack
  split
  · rfl
  dsimp only
  generalize unit + 1075 + (if m = 2 * leadingBit then 1 else 0) = biased
  by_cases below : biased < 2047
  · have inside : Fin.ofNat 2048 biased.toNat ≠ 2047 := by
      intro same
      have value : biased.toNat % 2048 = 2047 := congrArg Fin.val same
      omega
    rw [if_pos below, isNaN, beq_eq_false_iff_ne.mpr inside, Bool.false_and]
  · rw [if_neg below]
    rfl

/-- Rounding a decimal gives a number. -/
theorem isNaN_ofDecimal (negative : Bool) (digits : Nat) (power : Int) :
    (ofDecimal negative digits power).isNaN = false := by
  rw [ofDecimal_eq_ofRatio]
  by_cases none : digits * 10 ^ power.toNat = 0
  · rw [none, ofRatio_zero]
    rfl
  · rw [ofRatio_of_ne negative none _ rfl]
    exact isNaN_pack _ _ _

end Decimals

end ConversionRelay.Binary64
