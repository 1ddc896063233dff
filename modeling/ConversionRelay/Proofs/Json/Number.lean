import ConversionRelay.Proofs.Json.RoundTrip
import ConversionRelay.Proofs.Number.Decimal
/-!
Numbers that are read back from their JSON text.

A written number has digits, perhaps a point with more digits, and perhaps an exponent. Whatever
ends it, the reader takes just these apart and rounds what they denote. An integer is read back as
long as it has no more digits than the reader allows; a binary number is read back always, because
its digits were chosen so that they round to it.

Main statements: `scalarText_int` and `scalarText_double`.
-/
namespace ConversionRelay.Json

open Text Decimal

section Runs

/-- A text with which a run of digits before it ends. -/
def NoDigit (tail : Text) : Prop := ∀ c rest, tail = c :: rest → c.isDigit = false

theorem Ends.noDigit {tail : Text} (ends : Ends tail) : NoDigit tail := fun c rest same =>
  (ends c rest same).1

theorem noDigit_cons {c : CodePoint} {rest : Text} (other : c.isDigit = false) :
    NoDigit (c :: rest) := by
  intro d others same
  cases same
  exact other

/-- Digits are taken up to where they end. -/
theorem span_digits {ds tail : Text} (digits : ∀ c ∈ ds, c.isDigit = true) (ends : NoDigit tail) :
    (ds ++ tail).takeWhile CodePoint.isDigit = ds ∧
      (ds ++ tail).dropWhile CodePoint.isDigit = tail := by
  induction ds with
  | nil =>
    cases tail with
    | nil => exact ⟨rfl, rfl⟩
    | cons c rest => simp [ends c rest rfl]
  | cons c ds ih =>
    obtain ⟨taken, left⟩ := ih fun other member => digits other (List.mem_cons_of_mem c member)
    simp [digits c List.mem_cons_self, taken, left]

/-- Digits that may stand before a point: one zero, or digits that do not begin with one. -/
def Whole (ds : Text) : Prop :=
  (∀ c ∈ ds, c.isDigit = true) ∧
    (ds = [CodePoint.char '0'] ∨ ∃ c rest, ds = c :: rest ∧ c ≠ '0')

theorem whole_zero : Whole [CodePoint.char '0'] := ⟨by decide, .inl rfl⟩

theorem whole_ofNat (n : Nat) : Whole (ofNat n) := by
  refine ⟨isDigit_of_mem_ofNat, ?_⟩
  by_cases zero : n = 0
  · subst zero
    exact .inl (by decide)
  · exact .inr (ofNat_opens (Nat.pos_of_ne_zero zero))

theorem Whole.append {ds more : Text} (whole : Whole ds) (positive : ds ≠ [CodePoint.char '0'])
    (digits : ∀ c ∈ more, c.isDigit = true) : Whole (ds ++ more) := by
  obtain ⟨c, rest, is, opens⟩ := whole.2.resolve_left positive
  refine ⟨List.forall_mem_append.mpr ⟨whole.1, digits⟩, .inr ⟨c, rest ++ more, ?_, opens⟩⟩
  rw [is]
  rfl

theorem Whole.take {ds : Text} (whole : Whole ds) (positive : ds ≠ [CodePoint.char '0'])
    {count : Nat} (some : 0 < count) : Whole (ds.take count) := by
  obtain ⟨c, rest, is, opens⟩ := whole.2.resolve_left positive
  obtain ⟨fewer, rfl⟩ : ∃ fewer, count = fewer + 1 := ⟨count - 1, by omega⟩
  refine ⟨fun d member => whole.1 d (List.mem_of_mem_take member),
    .inr ⟨c, rest.take fewer, ?_, opens⟩⟩
  rw [is, List.take_succ_cons]

theorem takeWhole_written {ds tail : Text} (whole : Whole ds) (ends : NoDigit tail) :
    takeWhole (ds ++ tail) = some (ds, tail) := by
  obtain ⟨digits, rfl | ⟨c, rest, rfl, opens⟩⟩ := whole
  · rfl
  · obtain ⟨taken, left⟩ := span_digits (fun d member => digits d (List.mem_cons_of_mem c member)) ends
    simp only [List.cons_append, takeWhole, if_neg opens, digits c List.mem_cons_self, if_true, taken,
      left]

theorem takeFraction_written {places tail : Text} (digits : ∀ c ∈ places, c.isDigit = true)
    (nonempty : places ≠ []) (ends : NoDigit tail) :
    takeFraction (CodePoint.char '.' :: (places ++ tail)) = some (places, tail) := by
  cases places with
  | nil => exact absurd rfl nonempty
  | cons c rest =>
    obtain ⟨taken, left⟩ := span_digits (fun d member => digits d (List.mem_cons_of_mem c member)) ends
    simp only [List.cons_append, takeFraction, digits c List.mem_cons_self, if_true, taken, left]

theorem takeFraction_eq_none {tail : Text}
    (noPoint : ∀ c rest, tail = c :: rest → c ≠ CodePoint.char '.') : takeFraction tail = none := by
  unfold takeFraction
  split
  · rename_i c rest
    exact absurd rfl (noPoint _ _ rfl)
  · rfl

theorem takeExponent_eq_none {tail : Text} (ends : Ends tail) : takeExponent tail = none := by
  cases tail with
  | nil => rfl
  | cons c rest =>
    obtain ⟨_, _, small, large⟩ := ends c rest rfl
    have noMark : ¬ (c = 'e' ∨ c = 'E') := not_or.mpr ⟨small, large⟩
    simp only [takeExponent, if_neg noMark]

theorem takeExponent_written (width : Nat) (power : Int) {tail : Text} (ends : NoDigit tail) :
    takeExponent (Decimal.exponent width power ++ tail) = some (power, tail) := by
  have digits : ∀ c ∈ padded width power.natAbs, c.isDigit = true := isDigit_of_mem_padded
  obtain ⟨taken, left⟩ := span_digits digits ends
  have nonempty : (padded width power.natAbs).isEmpty = false :=
    List.isEmpty_eq_false_iff.mpr (padded_ne_nil width power.natAbs)
  unfold Decimal.exponent
  by_cases negative : power < 0
  · have shape : Text.ofString "e-" ++ padded width power.natAbs ++ tail =
        CodePoint.char 'e' :: CodePoint.char '-' :: (padded width power.natAbs ++ tail) := rfl
    have size : -(power.natAbs : Int) = power := by omega
    rw [if_pos negative, shape]
    simp only [takeExponent, true_or, if_true, Text.takeSign, taken, left, nonempty,
      Bool.false_eq_true, if_false, plainNatural_padded, size]
  · have shape : Text.ofString "e+" ++ padded width power.natAbs ++ tail =
        CodePoint.char 'e' :: CodePoint.char '+' :: (padded width power.natAbs ++ tail) := rfl
    have size : (power.natAbs : Int) = power := by omega
    rw [if_neg negative, shape]
    simp only [takeExponent, true_or, if_true, Text.takeSign, taken, left, nonempty,
      Bool.false_eq_true, if_false, plainNatural_padded, size]

end Runs

section Unsigned

variable {limits : Limits} {negative : Bool} {start tail : Text}

/-- Digits without a point and an exponent are an integer. -/
theorem readUnsigned_integer {ds : Text} (whole : Whole ds) (ends : Ends tail) :
    readUnsigned limits negative start (ds ++ tail) =
      (integerOf limits negative ds).map (·, tail) := by
  have noFraction := takeFraction_eq_none fun c rest same => (ends c rest same).2.1
  simp only [readUnsigned, takeWhole_written whole ends.noDigit, noFraction, Option.map_none,
    Option.getD_none, takeExponent_eq_none ends, Option.isNone_none, Bool.and_self, if_true]

/-- Digits with a point between them are a decimal with as many places as stand behind it. -/
theorem readUnsigned_positional {whole places : Text} (isWhole : Whole whole)
    (digits : ∀ c ∈ places, c.isDigit = true) (nonempty : places ≠ []) (ends : Ends tail) :
    readUnsigned limits negative start (whole ++ CodePoint.char '.' :: (places ++ tail)) =
      .ok (.double (Binary64.ofDecimal negative (plainNatural (whole ++ places))
        (0 - places.length)), tail) := by
  have stops : NoDigit (CodePoint.char '.' :: (places ++ tail)) := noDigit_cons (by decide)
  simp only [readUnsigned, takeWhole_written isWhole stops,
    takeFraction_written digits nonempty ends.noDigit, Option.map_some, Option.getD_some,
    takeExponent_eq_none ends, Option.map_none, Option.getD_none, Option.isNone_some,
    Bool.false_and, Bool.false_eq_true, if_false]

/-- One digit, perhaps with others behind a point, and an exponent are a decimal. -/
theorem readUnsigned_scientific {d : CodePoint} {rest : Text} (opens : d ≠ '0')
    (digits : ∀ c ∈ d :: rest, c.isDigit = true) (width : Nat) (lead : Int) (ends : Ends tail) :
    readUnsigned limits negative start
        (mantissa (d :: rest) ++ (Decimal.exponent width lead ++ tail)) =
      .ok (.double (Binary64.ofDecimal negative (plainNatural (d :: rest)) (lead - rest.length)),
        tail) := by
  have first : Whole [d] :=
    ⟨fun c member => digits c (List.mem_singleton.mp member ▸ List.mem_cons_self),
      .inr ⟨d, [], rfl, opens⟩⟩
  obtain ⟨mark, after, marked, isMark⟩ : ∃ mark after,
      Decimal.exponent width lead ++ tail = mark :: after ∧ mark = CodePoint.char 'e' := by
    unfold Decimal.exponent
    split
    · exact ⟨_, _, rfl, rfl⟩
    · exact ⟨_, _, rfl, rfl⟩
  have stops : NoDigit (Decimal.exponent width lead ++ tail) := by
    rw [marked, isMark]
    exact noDigit_cons (by decide)
  cases rest with
  | nil =>
    have noFraction : takeFraction (Decimal.exponent width lead ++ tail) = none := by
      refine takeFraction_eq_none fun c others same => ?_
      rw [marked, isMark] at same
      cases same
      decide
    simp only [mantissa, readUnsigned, takeWhole_written first stops, noFraction, Option.map_none,
      Option.getD_none, takeExponent_written width lead ends.noDigit, Option.map_some,
      Option.getD_some, Option.isNone_some, Bool.and_false, Bool.false_eq_true, if_false,
      List.append_nil]
  | cons c others =>
    have shape : mantissa (d :: c :: others) ++ (Decimal.exponent width lead ++ tail) =
        [d] ++ CodePoint.char '.' :: (c :: others ++ (Decimal.exponent width lead ++ tail)) := rfl
    have point : NoDigit
        (CodePoint.char '.' :: (c :: others ++ (Decimal.exponent width lead ++ tail))) :=
      noDigit_cons (by decide)
    have whole := takeWhole_written first point
    have places := takeFraction_written
      (fun x member => digits x (List.mem_cons_of_mem d member)) (List.cons_ne_nil c others) stops
    rw [shape, readUnsigned, whole]
    simp only [places, Option.map_some, Option.getD_some,
      takeExponent_written width lead ends.noDigit, Option.isNone_some, Bool.and_self,
      Bool.false_eq_true, if_false, List.singleton_append]

end Unsigned

section Magnitudes

variable {limits : Limits} {x : Binary64}

/-- The digits of a positive number are not the digit zero. -/
theorem ofNat_ne_zero {n : Nat} (positive : 0 < n) : ofNat n ≠ [CodePoint.char '0'] := by
  intro same
  obtain ⟨c, rest, is, opens⟩ := ofNat_opens positive
  rw [same] at is
  exact opens (List.cons.inj is).1.symm

/-- A positional text denotes its decimal, wherever its point stands. -/
theorem readUnsigned_positionalText {negative : Bool} {start tail : Text} {digits : Nat}
    {power : Int} (positive : 0 < digits) (ends : Ends tail) :
    readUnsigned limits negative start
        (DecimalStyle.positional (ofNat digits) (power + (ofNat digits).length - 1) ++ tail) =
      .ok (.double (Binary64.ofDecimal negative digits power), tail) := by
  generalize leads : power + (ofNat digits).length - 1 = lead
  have all : ∀ c ∈ ofNat digits, c.isDigit = true := isDigit_of_mem_ofNat
  have notZero := ofNat_ne_zero positive
  unfold DecimalStyle.positional
  by_cases small : lead < 0
  · -- Zeros stand between the point and the digits.
    have shape : Text.ofString "0." ++ zeros ((-lead).toNat - 1) ++ ofNat digits ++ tail =
        [CodePoint.char '0'] ++ CodePoint.char '.' ::
          (zeros ((-lead).toNat - 1) ++ ofNat digits ++ tail) := rfl
    have places : ∀ c ∈ zeros ((-lead).toNat - 1) ++ ofNat digits, c.isDigit = true :=
      List.forall_mem_append.mpr ⟨isDigit_of_mem_zeros, all⟩
    have some : zeros ((-lead).toNat - 1) ++ ofNat digits ≠ [] := fun none =>
      ofNat_ne_nil digits (List.append_eq_nil_iff.mp none).2
    have value : plainNatural ([CodePoint.char '0'] ++ (zeros ((-lead).toNat - 1) ++ ofNat digits)) =
        digits := by
      rw [plainNatural_append, plainNatural_append, plainNatural_zeros, plainNatural_ofNat]
      simp [plainNatural, CodePoint.digitValue, CodePoint.code]
    have counted : (0 : Int) - (zeros ((-lead).toNat - 1) ++ ofNat digits).length = power := by
      rw [List.length_append, zeros, List.length_replicate]
      omega
    rw [if_pos small, shape, readUnsigned_positional whole_zero places some ends, value, counted]
  rw [if_neg small]
  dsimp only
  by_cases short : (ofNat digits).length ≤ lead.toNat + 1
  · -- Zeros stand between the digits and the point.
    let fill := lead.toNat + 1 - (ofNat digits).length
    have shape : ofNat digits ++ zeros fill ++ Text.ofString ".0" ++ tail =
        (ofNat digits ++ zeros fill) ++ CodePoint.char '.' :: ([CodePoint.char '0'] ++ tail) := by
      rw [List.append_assoc]
      rfl
    have value : plainNatural (ofNat digits ++ zeros fill ++ [CodePoint.char '0']) =
        digits * 10 ^ (fill + 1) := by
      have last : zeros fill ++ [CodePoint.char '0'] = zeros (fill + 1) :=
        List.replicate_succ'.symm
      rw [List.append_assoc, last, plainNatural_append, plainNatural_ofNat, plainNatural_zeros,
        zeros, List.length_replicate, Nat.add_zero]
    have counted : (0 : Int) - ([CodePoint.char '0'] : Text).length = power - (fill + 1 : Nat) := by
      simp only [fill, List.length_singleton]
      omega
    have isWhole : Whole (ofNat digits ++ zeros fill) :=
      (whole_ofNat digits).append notZero isDigit_of_mem_zeros
    rw [if_pos short, shape, readUnsigned_positional isWhole (by decide) (List.cons_ne_nil _ _) ends,
      value, counted, Binary64.ofDecimal_shift]
  · let whole := lead.toNat + 1
    have shape : (ofNat digits).take whole ++ Text.ofString "." ++ (ofNat digits).drop whole ++ tail =
        (ofNat digits).take whole ++ CodePoint.char '.' :: ((ofNat digits).drop whole ++ tail) := by
      rw [List.append_assoc, List.append_assoc]
      rfl
    have some : (ofNat digits).drop whole ≠ [] := by
      rw [Ne, List.drop_eq_nil_iff]
      omega
    have counted : (0 : Int) - ((ofNat digits).drop whole).length = power := by
      rw [List.length_drop]
      omega
    have isWhole : Whole ((ofNat digits).take whole) :=
      (whole_ofNat digits).take notZero (Nat.succ_pos _)
    rw [if_neg short, shape, readUnsigned_positional isWhole
      (fun c member => all c (List.mem_of_mem_drop member)) some ends, List.take_append_drop,
      plainNatural_ofNat, counted]

/-- The text of a positive finite number is read back as the number, under its sign. -/
theorem readUnsigned_ofMagnitude (style : DecimalStyle) (finite : x.isFinite = true)
    (present : x.isZero = false) (start : Text) {tail : Text} (ends : Ends tail) :
    readUnsigned limits x.negative start (style.ofMagnitude x ++ tail) =
      .ok (.double x, tail) := by
  obtain ⟨positive, reads⟩ := Binary64.ofDecimal_shortestDecimal finite present
  unfold DecimalStyle.ofMagnitude
  dsimp only
  generalize x.shortestDecimal.digits = digits at positive reads
  generalize x.shortestDecimal.power = power at reads
  split
  · rw [readUnsigned_positionalText positive ends, reads]
  · obtain ⟨d, rest, is, opens⟩ := ofNat_opens positive
    have all : ∀ c ∈ d :: rest, c.isDigit = true := is ▸ isDigit_of_mem_ofNat
    have counted : power + (ofNat digits).length - 1 - rest.length = power := by
      rw [is, List.length_cons]
      push_cast
      ring
    rw [DecimalStyle.scientific, List.append_assoc, is,
      readUnsigned_scientific opens all style.exponentWidth _ ends, ← is, plainNatural_ofNat,
      counted, reads]

end Magnitudes

section Scalars

variable {limits : Limits}

/-- A letter and a sign begin no number. -/
theorem ne_of_isDigit {c : CodePoint} (digit : c.isDigit = true) (x : Char)
    (other : (CodePoint.char x).isDigit = false) : CodePoint.char x ≠ c := by
  intro same
  rw [same, digit] at other
  cases other

theorem readWord_of_digit {c : CodePoint} (digit : c.isDigit = true) (rest : Text) :
    readWord (c :: rest) = none := by
  simp [readWord, words, Text.ofString, ne_of_isDigit digit 'n' rfl,
    ne_of_isDigit digit 't' rfl, ne_of_isDigit digit 'f' rfl, ne_of_isDigit digit 'N' rfl,
    ne_of_isDigit digit 'I' rfl, ne_of_isDigit digit '-' rfl]

theorem readWord_of_minus {c : CodePoint} (digit : c.isDigit = true) (rest : Text) :
    readWord (CodePoint.char '-' :: c :: rest) = none := by
  simp [readWord, words, Text.ofString, ne_of_isDigit digit 'I' rfl]

theorem opensScalar_of_isDigit {c : CodePoint} (digit : c.isDigit = true) : OpensScalar c := by
  have noBlank : isSpace c = false := by
    simp [isSpace, (ne_of_isDigit digit ' ' rfl).symm, (ne_of_isDigit digit '\t' rfl).symm,
      (ne_of_isDigit digit '\n' rfl).symm, (ne_of_isDigit digit '\r' rfl).symm]
  have noMark : c ≠ .ofCode 0xfeff := by
    intro same
    rw [same] at digit
    exact absurd digit (by decide)
  exact ⟨⟨noBlank, (ne_of_isDigit digit ']' rfl).symm, (ne_of_isDigit digit '\x7d' rfl).symm,
    noMark⟩, (ne_of_isDigit digit '\x22' rfl).symm, (ne_of_isDigit digit '\x7b' rfl).symm,
    (ne_of_isDigit digit '[' rfl).symm⟩

/-- What begins with a digit is read as a number without a sign. -/
theorem readScalar_digit {c : CodePoint} (digit : c.isDigit = true) (rest : Text) :
    readScalar limits (c :: rest) = readUnsigned limits false (c :: rest) (c :: rest) := by
  rw [readScalar, readWord_of_digit digit]
  dsimp only
  unfold readNumber
  split
  · rename_i minus
    rw [(List.cons.inj minus).1] at digit
    cases digit
  · rfl

/-- An unsigned number is read behind its sign, if it has one. -/
theorem scalarText_signed {text : Text} {negative : Bool} {v : Value}
    (opens : ∃ c rest, text = c :: rest ∧ c.isDigit = true)
    (reads : ∀ start tail, Ends tail →
      readUnsigned limits negative start (text ++ tail) = .ok (v, tail)) :
    ScalarText limits (if negative then CodePoint.char '-' :: text else text) v := by
  obtain ⟨c, rest, rfl, digit⟩ := opens
  cases negative with
  | false =>
    refine ⟨⟨c, rest, rfl, opensScalar_of_isDigit digit⟩, fun tail ends => ?_⟩
    rw [if_neg Bool.false_ne_true, List.cons_append, readScalar_digit digit]
    exact reads _ tail ends
  | true =>
    refine ⟨⟨.char '-', c :: rest, rfl, by decide⟩, fun tail ends => ?_⟩
    rw [if_pos rfl, readScalar, List.cons_append, List.cons_append, readWord_of_minus digit]
    exact reads _ tail ends

/-- An integer with no more digits than the reader allows is read back from its text. -/
theorem scalarText_int {n : Int} (short : (ofNat n.natAbs).length ≤ limits.digits) :
    ScalarText limits (Decimal.ofInt n) (.int n) := by
  have text : Decimal.ofInt n =
      if decide (n < 0) then CodePoint.char '-' :: ofNat n.natAbs else ofNat n.natAbs := by
    simp only [Decimal.ofInt, decide_eq_true_eq]
  have opens : ∃ c rest, ofNat n.natAbs = c :: rest ∧ c.isDigit = true := by
    cases is : ofNat n.natAbs with
    | nil => exact absurd is (ofNat_ne_nil _)
    | cons c rest => exact ⟨c, rest, rfl, isDigit_of_mem_ofNat c (is ▸ List.mem_cons_self)⟩
  rw [text]
  refine scalarText_signed opens fun start tail ends => ?_
  have signed : (if decide (n < 0) = true then -(n.natAbs : Int) else n.natAbs) = n := by
    by_cases negative : n < 0
    · rw [if_pos (decide_eq_true negative)]
      omega
    · rw [if_neg (by simpa using negative)]
      omega
  rw [readUnsigned_integer (whole_ofNat _) ends, integerOf, if_neg (Nat.not_lt.mpr short),
    plainNatural_ofNat, signed]
  rfl

/-- The text of a finite number begins with a digit. -/
theorem ofMagnitude_opens (style : DecimalStyle) {x : Binary64} (finite : x.isFinite = true)
    (present : x.isZero = false) :
    ∃ c rest, style.ofMagnitude x = c :: rest ∧ c.isDigit = true := by
  obtain ⟨positive, _⟩ := Binary64.ofDecimal_shortestDecimal finite present
  obtain ⟨d, rest, is, _⟩ := ofNat_opens positive
  have digit : d.isDigit = true := isDigit_of_mem_ofNat d (is ▸ List.mem_cons_self)
  unfold DecimalStyle.ofMagnitude
  dsimp only
  split
  · unfold DecimalStyle.positional
    split
    · exact ⟨.char '0', _, rfl, rfl⟩
    · dsimp only
      split
      · exact ⟨d, _, by rw [is]; rfl, digit⟩
      · exact ⟨d, _, by rw [is, List.take_succ_cons]; rfl, digit⟩
  · rw [DecimalStyle.scientific, is]
    cases rest with
    | nil => exact ⟨d, _, rfl, digit⟩
    | cons c others => exact ⟨d, _, rfl, digit⟩

theorem eq_infinity {x : Binary64} (number : x.isNaN = false) (infinite : x.isFinite = false) :
    x = .infinity x.negative := by
  obtain ⟨negative, exponent, fraction⟩ := x
  have top : exponent = 2047 := by simpa [Binary64.isFinite] using infinite
  subst top
  have none : fraction = 0 := by simpa [Binary64.isNaN] using number
  rw [none]
  rfl

theorem eq_zero {x : Binary64} (zero : x.isZero = true) : x = .zero x.negative := by
  obtain ⟨negative, exponent, fraction⟩ := x
  simp only [Binary64.isZero, Bool.and_eq_true, beq_iff_eq] at zero
  rw [zero.1, zero.2]
  rfl

/-- The name of an infinite number is read as the number. -/
theorem scalarText_infinity (limits : Limits) (negative : Bool) :
    ScalarText limits
      (if negative then CodePoint.char '-' :: numberStyle.infinite else numberStyle.infinite)
      (.double (.infinity negative)) := by
  cases negative with
  | false => exact scalarText_of_word (by decide) fun tail => rfl
  | true => exact scalarText_of_word (by decide) fun tail => rfl

/-- A binary number is read back from its text. -/
theorem scalarText_double {x : Binary64} (number : x.isNaN = false) :
    ScalarText limits (numberStyle.write x) (.double x) := by
  rw [DecimalStyle.write, number, if_neg Bool.false_ne_true]
  cases finite : x.isFinite with
  | false =>
    have infinite := scalarText_infinity limits x.negative
    rw [← eq_infinity number finite] at infinite
    exact infinite
  | true =>
    simp only [Bool.not_true, Bool.false_eq_true, if_false]
    cases zero : x.isZero with
    | true =>
      rw [if_pos rfl]
      refine scalarText_signed ⟨.char '0', _, rfl, rfl⟩ fun start tail ends => ?_
      have place : ∀ c ∈ [CodePoint.char '0'], c.isDigit = true := by decide
      have none : plainNatural ([CodePoint.char '0'] ++ [CodePoint.char '0']) = 0 := by decide
      refine (readUnsigned_positional whole_zero place (List.cons_ne_nil _ _) ends).trans ?_
      rw [none, Binary64.ofDecimal, if_pos rfl, ← eq_zero zero]
    | false =>
      rw [if_neg Bool.false_ne_true]
      exact scalarText_signed (ofMagnitude_opens numberStyle finite zero) fun start tail ends =>
        readUnsigned_ofMagnitude numberStyle finite zero start ends

end Scalars

end ConversionRelay.Json
