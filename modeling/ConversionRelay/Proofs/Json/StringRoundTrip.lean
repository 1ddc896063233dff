import ConversionRelay.Json.Parser
import ConversionRelay.Json.Printer
import ConversionRelay.Proofs.Text.Encoding
/-!
What is read back of a string that was written with escapes.

A string comes back as it was, with one exception that lies in the format: two halves of a surrogate
pair that stand next to each other are spelled by two escapes, and so is the character that the pair
encodes. Reading makes that character of them. `Text.paired` says what a text becomes that way.

Main statement: a written string is read up to its closing quote, as its paired text
(`readChars_written`).
-/
namespace ConversionRelay

namespace CodePoint

/-- Whether a code point is a high half of a surrogate pair. -/
def isHigh (c : CodePoint) : Bool := 0xd800 ≤ c.code && c.code < 0xdc00

/-- Whether a code point is a low half of a surrogate pair. -/
def isLow (c : CodePoint) : Bool := 0xdc00 ≤ c.code && c.code < 0xe000

theorem code_lt (c : CodePoint) : c.code < 0x110000 := by
  cases c with
  | char c =>
    have valid := c.valid
    simp only [code, Char.toNat]
    rcases valid with low | high <;> omega
  | surrogate half => simp only [code, firstSurrogate]; omega

theorem not_half_of_char {c : CodePoint} (isChar : c.isSurrogate = false) :
    c.isHigh = false ∧ c.isLow = false := by
  have range := Text.code_of_char isChar
  simp only [isHigh, isLow, Bool.and_eq_false_iff, decide_eq_false_iff_not]
  omega

/-- A number gives a half exactly if it lies among the halves; one beyond the last code point does
not. -/
theorem half_ofCode (n : Nat) : (ofCode n).isHigh = (0xd800 ≤ n && n < 0xdc00) ∧
    (ofCode n).isLow = (0xdc00 ≤ n && n < 0xe000) := by
  by_cases half : firstSurrogate ≤ n ∧ n < firstSurrogate + 2048
  · have code : (ofCode n).code = n := by
      rw [ofCode, dif_pos half]
      simp only [code]
      omega
    rw [isHigh, isLow, code]
    exact ⟨rfl, rfl⟩
  · have outside : ¬(0xd800 ≤ n ∧ n < 0xd800 + 2048) := half
    have isChar : (ofCode n).isSurrogate = false := by
      rw [ofCode, dif_neg half]
      rfl
    obtain ⟨noHigh, noLow⟩ := not_half_of_char isChar
    rw [noHigh, noLow]
    constructor
    · symm
      simp only [Bool.and_eq_false_iff, decide_eq_false_iff_not]
      omega
    · symm
      simp only [Bool.and_eq_false_iff, decide_eq_false_iff_not]
      omega

end CodePoint

namespace Text

/-- A text in which every high half of a surrogate pair is joined with a low half right after it. -/
def paired : Text → Text
  | [] => []
  | [c] => [c]
  | c :: d :: rest =>
    if c.isHigh && d.isLow then Json.ofPair c.code d.code :: paired rest
    else c :: paired (d :: rest)

theorem paired_joined {c d : CodePoint} (both : (c.isHigh && d.isLow) = true) (rest : Text) :
    paired (c :: d :: rest) = Json.ofPair c.code d.code :: paired rest := if_pos both

theorem paired_separate {c d : CodePoint} (separate : ¬(c.isHigh && d.isLow) = true)
    (rest : Text) : paired (c :: d :: rest) = c :: paired (d :: rest) := if_neg separate

/-- A text in which no high half stands right before a low one has nothing to join. -/
theorem paired_of_apart {s : Text} (apart : ∀ before c d after, s = before ++ c :: d :: after →
    (c.isHigh && d.isLow) = false) : paired s = s := by
  induction s using paired.induct with
  | case1 => rfl
  | case2 c => rfl
  | case3 c d rest both ih =>
    have split := apart [] c d rest rfl
    rw [both] at split
    cases split
  | case4 c d rest separate ih =>
    have tail : paired (d :: rest) = d :: rest := ih fun before x y after same =>
      apart (c :: before) x y after (by rw [same]; rfl)
    rw [paired_separate separate, tail]

/-- Pairing leaves no text over and makes none. -/
@[simp] theorem paired_eq_nil {s : Text} : paired s = [] ↔ s = [] := by
  cases s using paired.fun_cases with
  | case1 => exact Iff.rfl
  | case2 c => exact Iff.rfl
  | case3 c d rest both => simp [paired_joined both]
  | case4 c d rest apart => simp [paired_separate apart]

end Text

namespace Json

open Text

section Escapes

theorem hexValue?_hexDigit : ∀ d, d < 16 → hexValue? (hexDigit d) = some d := by decide

theorem length_hex (width n : Nat) : (hex width n).length = width := by
  induction width generalizing n with
  | zero => rfl
  | succ width ih => simp [hex, ih]

/-- Four hexadecimal digits and the unit that they denote. -/
structure Digits (ds : Text) (unit : Nat) : Prop where
  length : ds.length = 4
  value : ∀ rest, hexUnit? (ds ++ rest) = some unit

/-- Four hexadecimal digits denote the number they were written for. -/
theorem digits_hex {n : Nat} (bound : n < 0x10000) : Digits (hex 4 n) n := by
  refine ⟨length_hex 4 n, fun rest => ?_⟩
  have digit (k : Nat) : hexValue? (hexDigit (k % 16)) = some (k % 16) :=
    hexValue?_hexDigit _ (Nat.mod_lt _ (by decide))
  simp only [hex, List.nil_append, List.cons_append, hexUnit?, digit, Option.some.injEq]
  omega

/-- A numeric escape depends on its unit and on whether an escape of a low half follows. -/
theorem readHexEscape_digits {ds : Text} {unit : Nat} {rest : Text} (digits : Digits ds unit)
    (more : rest ≠ []) :
    readHexEscape ('u' :: (ds ++ rest)) =
      if 0xd800 ≤ unit ∧ unit < 0xdc00 ∧ rest.take 2 = "\\u" ∧ !(rest.drop 6).isEmpty then
        match hexUnit? (rest.drop 2) with
        | none => failWithin .badHexEscape (rest.drop 1)
        | some low =>
          if 0xdc00 ≤ low ∧ low < 0xe000 then .ok (ofPair unit low, 11)
          else .ok (.ofCode unit, 5)
      else .ok (.ofCode unit, 5) := by
  have next : (ds ++ rest).drop 4 = rest := List.drop_left' digits.length
  have nonempty : rest.isEmpty = false := by simpa using more
  have reads := readHexEscape.eq_def ('u' :: (ds ++ rest))
  simp only [List.drop_succ_cons, List.drop_zero, next, nonempty, digits.value,
    Bool.false_eq_true, if_false] at reads
  exact reads

/-- A text that does not open with the escape of a low half: a unit before it is not joined. -/
def Unjoining (rest : Text) : Prop :=
  rest.take 2 = "\\u" →
    ∃ other, hexUnit? (rest.drop 2) = some other ∧ ¬ (0xdc00 ≤ other ∧ other < 0xe000)

/-- The escape of a unit that nothing joins is read as the code point of that unit. -/
theorem readHexEscape_alone {ds : Text} {unit : Nat} {rest : Text} (digits : Digits ds unit)
    (more : rest ≠ []) (alone : 0xd800 ≤ unit → unit < 0xdc00 → Unjoining rest) :
    readHexEscape ('u' :: (ds ++ rest)) = .ok (.ofCode unit, 5) := by
  rw [readHexEscape_digits digits more]
  split
  · rename_i opens
    obtain ⟨other, is, outside⟩ := alone opens.1 opens.2.1 opens.2.2.1
    simp only [is, if_neg outside]
  · rfl

/-- The escapes of a high and a low unit are read as the character that the pair encodes. -/
theorem readHexEscape_pair {ds es : Text} {high low : Nat} {rest : Text} (first : Digits ds high)
    (second : Digits es low) (isHigh : 0xd800 ≤ high ∧ high < 0xdc00)
    (isLow : 0xdc00 ≤ low ∧ low < 0xe000) (more : rest ≠ []) :
    readHexEscape ('u' :: (ds ++ CodePoint.char '\\' :: CodePoint.char 'u' :: (es ++ rest))) =
      .ok (ofPair high low, 11) := by
  have after : (es ++ rest).drop 4 = rest := List.drop_left' second.length
  have nonempty : rest.isEmpty = false := by simpa using more
  have opens : 0xd800 ≤ high ∧ high < 0xdc00 ∧
      (CodePoint.char '\\' :: CodePoint.char 'u' :: (es ++ rest)).take 2 = "\\u" ∧
      !((CodePoint.char '\\' :: CodePoint.char 'u' :: (es ++ rest)).drop 6).isEmpty :=
    ⟨isHigh.1, isHigh.2, rfl, by simp [after, nonempty]⟩
  rw [readHexEscape_digits first (by simp), if_pos opens]
  simp only [List.drop_succ_cons, List.drop_zero, second.value, if_pos isLow]

end Escapes

section Characters

/-- What an escape has used up is passed over. -/
theorem readChars_skip (used rest : Text) :
    readChars used.length (used ++ rest) = readChars 0 rest := by
  induction used with
  | nil => rfl
  | cons c used ih => exact ih

/-- A character that needs no escape contributes itself. -/
theorem readChars_plain {c : CodePoint} (quote : c ≠ '\x22') (slash : c ≠ '\\')
    (visible : ¬c.code ≤ 0x1f) (rest : Text) :
    readChars 0 (c :: rest) = withFirst c (readChars 0 rest) := by
  rw [readChars, if_neg quote, if_neg slash, if_neg visible]

/-- An escape contributes the code point that it denotes. -/
theorem readChars_escape (used : Text) {rest : Text} {c : CodePoint}
    (denotes : readEscape (used ++ rest) = .ok (c, used.length)) :
    readChars 0 ('\\' :: (used ++ rest)) = withFirst c (readChars 0 rest) := by
  have notQuote : ¬ (CodePoint.char '\\' = CodePoint.char '\x22') := by decide
  simp only [readChars, if_neg notQuote, if_true, denotes, readChars_skip]

/-- The escape of a unit contributes the code point of the unit unless a low half joins it. -/
theorem readChars_unit {ds : Text} {unit : Nat} {rest : Text} (digits : Digits ds unit)
    (more : rest ≠ []) (alone : 0xd800 ≤ unit → unit < 0xdc00 → Unjoining rest) :
    readChars 0 (CodePoint.char '\\' :: CodePoint.char 'u' :: (ds ++ rest)) =
      withFirst (.ofCode unit) (readChars 0 rest) := by
  have length : (CodePoint.char 'u' :: ds).length = 5 := by simp [digits.length]
  refine readChars_escape ('u' :: ds) ?_
  rw [length]
  exact readHexEscape_alone digits more alone

/-- The escapes of a high and a low unit contribute one character. -/
theorem readChars_units {ds es : Text} {high low : Nat} {rest : Text} (first : Digits ds high)
    (second : Digits es low) (isHigh : 0xd800 ≤ high ∧ high < 0xdc00)
    (isLow : 0xdc00 ≤ low ∧ low < 0xe000) (more : rest ≠ []) :
    readChars 0 (CodePoint.char '\\' :: CodePoint.char 'u' ::
        (ds ++ CodePoint.char '\\' :: CodePoint.char 'u' :: (es ++ rest))) =
      withFirst (ofPair high low) (readChars 0 rest) := by
  have length : (CodePoint.char 'u' ::
      (ds ++ CodePoint.char '\\' :: CodePoint.char 'u' :: es)).length = 11 := by
    simp [first.length, second.length]
  have shape : CodePoint.char '\\' :: CodePoint.char 'u' ::
        (ds ++ CodePoint.char '\\' :: CodePoint.char 'u' :: (es ++ rest)) =
      CodePoint.char '\\' :: ((CodePoint.char 'u' ::
        (ds ++ CodePoint.char '\\' :: CodePoint.char 'u' :: es)) ++ rest) := by
    simp
  rw [shape]
  refine readChars_escape _ ?_
  rw [length, List.cons_append, List.append_assoc]
  exact readHexEscape_pair first second isHigh isLow more

/-- The escape of a unit in front of a text. -/
theorem unitEscape_append (unit : Nat) (rest : Text) : unitEscape unit ++ rest =
    CodePoint.char '\\' :: CodePoint.char 'u' :: (hex 4 unit ++ rest) := rfl

/-- A code point that is no half of a pair on its own is the pair of its two units. -/
theorem ofPair_units {c : CodePoint} (large : 0x10000 ≤ c.code) :
    ofPair (0xd800 + (c.code - 0x10000) / 0x400) (0xdc00 + (c.code - 0x10000) % 0x400) = c := by
  have whole : 0x10000 + (0xd800 + (c.code - 0x10000) / 0x400 - 0xd800) * 0x400 +
      (0xdc00 + (c.code - 0x10000) % 0x400 - 0xdc00) = c.code := by omega
  rw [ofPair, whole, CodePoint.ofCode_code]

/-- A code point is written as a letter escape, as itself, or as its units. -/
theorem stringChar_cases (layout : Layout) (c : CodePoint) :
    (∃ letter : CodePoint, layout.stringChar c = [.char '\\', letter] ∧ letter ≠ 'u' ∧
      escaped? letter = some c) ∨
    (layout.stringChar c = [c] ∧ c ≠ '\x22' ∧ c ≠ '\\' ∧ 0x20 ≤ c.code) ∨
    layout.stringChar c = unitEscapes c := by
  unfold Layout.stringChar
  split
  · rename_i same; subst same; exact .inl ⟨'\x22', rfl, by decide, by decide⟩
  split
  · rename_i same; subst same; exact .inl ⟨'\\', rfl, by decide, by decide⟩
  split
  · rename_i same; subst same; exact .inl ⟨'n', rfl, by decide, by decide⟩
  split
  · rename_i same; subst same; exact .inl ⟨'r', rfl, by decide, by decide⟩
  split
  · rename_i same; subst same; exact .inl ⟨'t', rfl, by decide, by decide⟩
  split
  · rename_i same; subst same; exact .inl ⟨'b', rfl, by decide, by decide⟩
  split
  · rename_i same; subst same; exact .inl ⟨'f', rfl, by decide, by decide⟩
  split
  · rename_i quote slash _ _ _ _ _ kept
    simp only [Layout.keeps, Bool.and_eq_true, decide_eq_true_eq] at kept
    exact .inr (.inl ⟨rfl, quote, slash, kept.1⟩)
  · exact .inr (.inr rfl)

/-- A half of a pair is written as its unit. -/
theorem stringChar_half {layout : Layout} (escaped : layout.escaped = true) {c : CodePoint}
    (half : 0xd800 ≤ c.code ∧ c.code < 0xe000) : layout.stringChar c = unitEscape c.code := by
  have differs (x : Char) (small : x.toNat < 0x80) : c ≠ .char x := by
    rintro rfl
    simp only [CodePoint.code] at half
    omega
  have beyond : layout.keeps c = false := by
    simp only [Layout.keeps, escaped, Bool.not_true, Bool.false_or, Bool.and_eq_false_iff,
      decide_eq_false_iff_not]
    omega
  simp only [Layout.stringChar, if_neg (differs '\x22' (by decide)),
    if_neg (differs '\\' (by decide)), if_neg (differs '\n' (by decide)),
    if_neg (differs '\r' (by decide)), if_neg (differs '\t' (by decide)),
    if_neg (differs '\x08' (by decide)), if_neg (differs '\x0c' (by decide)), beyond,
    Bool.false_eq_true, if_false, unitEscapes, if_pos (show c.code < 0x10000 by omega)]

/-- Behind anything but a low half, what is written next never joins the unit before it. -/
theorem unjoining_written (layout : Layout) {d : CodePoint} (apart : d.isLow = false)
    (more : Text) : Unjoining (layout.stringChar d ++ more) := by
  intro opens
  rcases stringChar_cases layout d with ⟨letter, is, notU, _⟩ | ⟨is, _, notSlash, _⟩ | is
  · rw [is] at opens
    simp only [List.cons_append, List.nil_append, List.take_succ_cons, List.take_zero] at opens
    exact absurd (List.cons.inj (List.cons.inj opens).2).1 notU
  · rw [is] at opens
    exact absurd (List.cons.inj opens).1 notSlash
  · rw [is, unitEscapes]
    split
    · rename_i small
      refine ⟨d.code, (digits_hex small).value more, ?_⟩
      simpa [CodePoint.isLow] using apart
    · have bound := d.code_lt
      refine ⟨0xd800 + (d.code - 0x10000) / 0x400, ?_, by omega⟩
      rw [List.append_assoc]
      exact (digits_hex (by omega)).value _

/-- A written code point is read as itself unless a low half joins it. -/
theorem readChars_stringChar (layout : Layout) {c : CodePoint} {rest : Text} (more : rest ≠ [])
    (alone : c.isHigh = true → Unjoining rest) :
    readChars 0 (layout.stringChar c ++ rest) = withFirst c (readChars 0 rest) := by
  rcases stringChar_cases layout c with
    ⟨letter, is, notU, denotes⟩ | ⟨is, quote, slash, printable⟩ | is
  · rw [is]
    refine readChars_escape [letter] ?_
    simp only [List.cons_append, List.nil_append, readEscape, if_neg notU, denotes,
      List.length_singleton]
  · rw [is]
    exact readChars_plain quote slash (by omega) rest
  · rw [is, unitEscapes]
    split
    · rename_i small
      have read := readChars_unit (digits_hex small) more fun high below =>
        alone (by simp [CodePoint.isHigh, high, below])
      rwa [CodePoint.ofCode_code] at read
    · have bound := c.code_lt
      have high : 0xd800 ≤ 0xd800 + (c.code - 0x10000) / 0x400 ∧
          0xd800 + (c.code - 0x10000) / 0x400 < 0xdc00 := by omega
      have low : 0xdc00 ≤ 0xdc00 + (c.code - 0x10000) % 0x400 ∧
          0xdc00 + (c.code - 0x10000) % 0x400 < 0xe000 := by omega
      have read := readChars_units (digits_hex (by omega)) (digits_hex (by omega)) high low more
      rw [ofPair_units (by omega)] at read
      rw [List.append_assoc]
      exact read

/-- A written string is read up to its closing quote, as its paired text. -/
theorem readChars_written {layout : Layout} (escaped : layout.escaped = true) (s tail : Text) :
    readChars 0 (s.flatMap layout.stringChar ++ CodePoint.char '\x22' :: tail) =
      .ok (paired s, tail) := by
  induction s using paired.induct with
  | case1 => rfl
  | case2 c =>
    have notQuote : CodePoint.char '\x22' ≠ '\\' := by decide
    have alone : Unjoining (CodePoint.char '\x22' :: tail) := fun opens =>
      absurd (List.cons.inj opens).1 notQuote
    rw [List.flatMap_cons, List.flatMap_nil, List.append_nil,
      readChars_stringChar layout (by simp) fun _ => alone]
    rfl
  | case3 c d rest both ih =>
    simp only [CodePoint.isHigh, CodePoint.isLow, Bool.and_eq_true, decide_eq_true_eq] at both
    rw [List.flatMap_cons, List.flatMap_cons, stringChar_half escaped (by omega),
      stringChar_half escaped (by omega), List.append_assoc, List.append_assoc,
      unitEscape_append, unitEscape_append,
      readChars_units (digits_hex (by omega)) (digits_hex (by omega)) both.1 both.2 (by simp), ih]
    have join : (c.isHigh && d.isLow) = true := by
      simp [CodePoint.isHigh, CodePoint.isLow, both]
    rw [paired_joined join]
    rfl
  | case4 c d rest apart ih =>
    rw [List.flatMap_cons, List.append_assoc, readChars_stringChar layout (by simp), ih]
    · rw [paired_separate apart]
      rfl
    · intro high
      rw [List.flatMap_cons, List.append_assoc]
      exact unjoining_written layout (by simpa [high] using apart) _

/-- A string between its quotes is read as its paired text. -/
theorem readString_written {layout : Layout} (escaped : layout.escaped = true) (s tail : Text) :
    readString (s.flatMap layout.stringChar ++ CodePoint.char '\x22' :: tail) =
      .ok (paired s, tail) := by
  rw [readString, readChars_written escaped]

end Characters

end Json

end ConversionRelay
