import ConversionRelay.Proofs.Json.StringRoundTrip
/-!
How strings are spelled.

A string is spelled by characters that stand for themselves, by escapes of one letter, and by
numeric escapes of four digits, of which the one of a high half takes the one of a low half right
after it along. `Spells` says so without a word on how far a reader looks ahead: where the reader
finds too little text to join two escapes, there is too little for a closing quote.

Main statement: a string is read exactly as it is spelled (`readChars_eq_ok`).
-/
namespace ConversionRelay.Json

open Text

/-- A text that opens with the escape of a low half. -/
def OpensLow (s : Text) : Prop :=
  ∃ ds low rest, s = CodePoint.char '\\' :: CodePoint.char 'u' :: (ds ++ rest) ∧ Digits ds low ∧
    0xdc00 ≤ low ∧ low < 0xe000

/-- A text spells a string up to its closing quote, and another text follows. -/
inductive Spells : Text → Text → Text → Prop
  | close (rest : Text) : Spells (CodePoint.char '\x22' :: rest) [] rest
  | plain {c : CodePoint} {s cs rest : Text} (visible : 0x20 ≤ c.code) (quote : c ≠ '\x22')
      (slash : c ≠ '\\') (more : Spells s cs rest) : Spells (c :: s) (c :: cs) rest
  | letter {letter c : CodePoint} {s cs rest : Text} (denotes : escaped? letter = some c)
      (more : Spells s cs rest) : Spells (CodePoint.char '\\' :: letter :: s) (c :: cs) rest
  | unit {ds : Text} {unit : Nat} {s cs rest : Text} (digits : Digits ds unit)
      (alone : 0xd800 ≤ unit → unit < 0xdc00 → ¬OpensLow s) (more : Spells s cs rest) :
      Spells (CodePoint.char '\\' :: CodePoint.char 'u' :: (ds ++ s)) (.ofCode unit :: cs) rest
  | pair {ds es : Text} {high low : Nat} {s cs rest : Text} (first : Digits ds high)
      (second : Digits es low) (isHigh : 0xd800 ≤ high ∧ high < 0xdc00)
      (isLow : 0xdc00 ≤ low ∧ low < 0xe000) (more : Spells s cs rest) :
      Spells (CodePoint.char '\\' :: CodePoint.char 'u' ::
        (ds ++ CodePoint.char '\\' :: CodePoint.char 'u' :: (es ++ s)))
        (ofPair high low :: cs) rest

section Digits

theorem digits_of_hexUnit? {s : Text} {unit : Nat} (denotes : hexUnit? s = some unit) :
    ∃ ds rest, s = ds ++ rest ∧ Digits ds unit := by
  match s, denotes with
  | a :: b :: c :: d :: rest, denotes => exact ⟨[a, b, c, d], rest, rfl, rfl, fun _ => denotes⟩

/-- Four digits denote one unit. -/
theorem Digits.unique {ds es : Text} {unit other : Nat} (first : Digits ds unit)
    (second : Digits es other) {s t : Text} (same : ds ++ s = es ++ t) :
    ds = es ∧ s = t ∧ unit = other := by
  have parts := List.append_inj same (first.length.trans second.length.symm)
  obtain ⟨rfl, rfl⟩ := parts
  exact ⟨rfl, rfl, Option.some.inj ((first.value []).symm.trans (second.value []))⟩

end Digits

section Remains

/-- What remains of a text of which something was used up. -/
structure Remains (rest s : Text) : Prop where
  suffix : rest <:+ s
  length : rest.length < s.length

theorem Remains.cons {rest s : Text} (c : CodePoint) (suffix : rest <:+ s) :
    Remains rest (c :: s) :=
  ⟨suffix.trans (List.suffix_cons c s), Nat.lt_succ_of_le suffix.length_le⟩

/-- Less than what remains remains as well. -/
theorem Remains.of_suffix {rest next s : Text} (remains : Remains next s) (suffix : rest <:+ next) :
    Remains rest s :=
  ⟨suffix.trans remains.suffix, Nat.lt_of_le_of_lt suffix.length_le remains.length⟩

/-- What remains of the end of a text remains of the text. -/
theorem Remains.within {rest ending s : Text} (remains : Remains rest ending)
    (suffix : ending <:+ s) : Remains rest s :=
  ⟨remains.suffix.trans suffix, Nat.lt_of_lt_of_le remains.length suffix.length_le⟩

/-- A string that was spelled has used up some of the text. -/
theorem Spells.remains {s cs rest : Text} (spells : Spells s cs rest) : Remains rest s := by
  induction spells with
  | close rest => exact .cons _ List.suffix_rfl
  | plain visible quote slash more ih => exact .cons _ ih.suffix
  | letter denotes more ih => exact .cons _ (ih.suffix.trans (List.suffix_cons _ _))
  | unit digits alone more ih =>
    exact .cons _ (ih.suffix.trans ((List.suffix_append _ _).trans (List.suffix_cons _ _)))
  | @pair ds es _ _ s _ _ first second isHigh isLow more ih =>
    have behind : s <:+ CodePoint.char 'u' ::
        (ds ++ CodePoint.char '\\' :: CodePoint.char 'u' :: (es ++ s)) :=
      ⟨CodePoint.char 'u' :: (ds ++ CodePoint.char '\\' :: CodePoint.char 'u' :: es), by simp⟩
    exact .cons _ (ih.suffix.trans behind)

end Remains

section Soundness

theorem withFirst_eq_ok {c : CodePoint} {read : Except StringFailure (Text × Text)} {cs rest : Text}
    (is : withFirst c read = .ok (cs, rest)) :
    ∃ others, cs = c :: others ∧ read = .ok (others, rest) := by
  cases read with
  | error failure => cases is
  | ok found =>
    cases is
    exact ⟨found.1, rfl, rfl⟩

theorem readChars_drop (skip : Nat) (s : Text) : readChars skip s = readChars 0 (s.drop skip) := by
  induction skip generalizing s with
  | zero => rfl
  | succ skip ih =>
    cases s with
    | nil => rfl
    | cons c s => exact ih s

/-- What a numeric escape that was read looks like. Two escapes are joined if a closing quote may
follow the second. -/
theorem shape_of_readHexEscape {s : Text} {c : CodePoint} {used : Nat}
    (read : readHexEscape (CodePoint.char 'u' :: s) = .ok (c, used)) :
    (∃ ds unit rest, s = ds ++ rest ∧ Digits ds unit ∧ .ofCode unit = c ∧ used = 5 ∧
      (0xd800 ≤ unit → unit < 0xdc00 → OpensLow rest → rest.length ≤ 6)) ∨
    ∃ ds es high low rest, s = ds ++ CodePoint.char '\\' :: CodePoint.char 'u' :: (es ++ rest) ∧
      Digits ds high ∧ Digits es low ∧ (0xd800 ≤ high ∧ high < 0xdc00) ∧
      (0xdc00 ≤ low ∧ low < 0xe000) ∧ ofPair high low = c ∧ used = 11 := by
  cases denotes : hexUnit? s with
  | none =>
    rw [readHexEscape.eq_def] at read
    simp only [List.drop_succ_cons, List.drop_zero, denotes] at read
    split at read <;> cases read
  | some unit =>
    obtain ⟨ds, rest, rfl, digits⟩ := digits_of_hexUnit? denotes
    have more : rest ≠ [] := by
      rintro rfl
      have ends : ((ds ++ []).drop 4).isEmpty = true := by simp [digits.length]
      rw [readHexEscape.eq_def] at read
      simp only [List.drop_succ_cons, ends, if_true] at read
      cases read
    rw [readHexEscape_digits digits more] at read
    split at read
    · rename_i joins
      obtain ⟨high, below, opens, _⟩ := joins
      cases behind : hexUnit? (rest.drop 2) with
      | none =>
        rw [behind] at read
        cases read
      | some low =>
        rw [behind] at read
        dsimp only at read
        obtain ⟨es, after, is, others⟩ := digits_of_hexUnit? behind
        obtain rfl : CodePoint.char '\\' :: CodePoint.char 'u' :: (es ++ after) = rest := by
          rw [← is]
          exact (congrArg (· ++ rest.drop 2) opens).symm.trans (List.take_append_drop 2 rest)
        split at read
        · rename_i isLow
          obtain ⟨rfl, rfl⟩ := Prod.mk.inj (Except.ok.inj read)
          exact .inr ⟨ds, es, unit, low, after, rfl, digits, others, ⟨high, below⟩, isLow, rfl, rfl⟩
        · rename_i other
          obtain ⟨rfl, rfl⟩ := Prod.mk.inj (Except.ok.inj read)
          refine .inl ⟨ds, unit, _, rfl, digits, rfl, rfl, fun _ _ opensLow => absurd ?_ other⟩
          obtain ⟨fs, low', after', same, third, isLow⟩ := opensLow
          obtain ⟨_, _, rfl⟩ := others.unique third (List.cons.inj (List.cons.inj same).2).2
          exact isLow
    · rename_i apart
      obtain ⟨rfl, rfl⟩ := Prod.mk.inj (Except.ok.inj read)
      refine .inl ⟨ds, unit, rest, rfl, digits, rfl, rfl, fun high below opensLow => ?_⟩
      obtain ⟨fs, low, after, rfl, third, _⟩ := opensLow
      have short : ((CodePoint.char '\\' :: CodePoint.char 'u' :: (fs ++ after)).drop 6).isEmpty := by
        cases empty : ((CodePoint.char '\\' :: CodePoint.char 'u' :: (fs ++ after)).drop 6).isEmpty with
        | true => rfl
        | false => exact absurd ⟨high, below, rfl, by rw [empty]; rfl⟩ apart
      exact List.drop_eq_nil_iff.mp (List.isEmpty_iff.mp short)

/-- A string whose first escape is that of a low half goes on behind it. -/
theorem Spells.length_of_opensLow {s cs rest : Text} (spells : Spells s cs rest)
    (opens : OpensLow s) : 6 < s.length := by
  obtain ⟨es, low, after, rfl, _, _⟩ := opens
  generalize is : CodePoint.char '\\' :: CodePoint.char 'u' :: (es ++ after) = s at spells
  cases spells with
  | close rest => cases is
  | plain visible quote slash more =>
    cases is
    exact absurd rfl slash
  | letter denotes more =>
    cases is
    cases denotes
  | unit digits alone more =>
    have behind := more.remains.length
    simp only [List.length_cons, List.length_append, digits.length]
    omega
  | pair first second isHigh isLow more =>
    have behind := more.remains.length
    simp only [List.length_cons, List.length_append, first.length]
    omega

/-- What follows an escape completes the string. -/
theorem spells_of_readEscape {s cs rest : Text} {c : CodePoint} {used : Nat}
    (read : readEscape s = .ok (c, used)) (more : Spells (s.drop used) cs rest) :
    Spells (CodePoint.char '\\' :: s) (c :: cs) rest := by
  cases s with
  | nil => cases read
  | cons letter s =>
    rw [readEscape] at read
    by_cases numeric : letter = 'u'
    · rw [if_pos numeric] at read
      subst numeric
      obtain ⟨ds, unit, after, rfl, digits, rfl, rfl, short⟩ |
        ⟨ds, es, high, low, after, rfl, first, second, isHigh, isLow, rfl, rfl⟩ :=
          shape_of_readHexEscape read
      · have behind : (CodePoint.char 'u' :: (ds ++ after)).drop 5 = after :=
          List.drop_left' digits.length
        rw [behind] at more
        refine .unit digits (fun high below opens => ?_) more
        have long := more.length_of_opensLow opens
        have bound := short high below opens
        omega
      · have behind : (CodePoint.char 'u' ::
            (ds ++ CodePoint.char '\\' :: CodePoint.char 'u' :: (es ++ after))).drop 11 = after := by
          have length : (ds ++ CodePoint.char '\\' :: CodePoint.char 'u' :: es).length = 10 := by
            simp [first.length, second.length]
          have whole := congrArg (List.drop 10) (List.append_assoc ds
            (CodePoint.char '\\' :: CodePoint.char 'u' :: es) after)
          exact whole.symm.trans (List.drop_left' length)
        rw [behind] at more
        exact .pair first second isHigh isLow more
    · rw [if_neg numeric] at read
      split at read
      · rename_i denotes
        cases read
        exact .letter denotes more
      · cases read

theorem spells_of_readChars {s cs rest : Text} (read : readChars 0 s = .ok (cs, rest)) :
    Spells s cs rest := by
  induction size : s.length using Nat.strongRecOn generalizing s cs with
  | ind size ih =>
    subst size
    cases s with
    | nil => cases read
    | cons c s =>
      rw [readChars] at read
      by_cases quote : c = '\x22'
      · rw [if_pos quote] at read
        cases read
        rw [quote]
        exact .close _
      rw [if_neg quote] at read
      by_cases slash : c = '\\'
      · rw [if_pos slash] at read
        subst slash
        cases escape : readEscape s with
        | error failure =>
          rw [escape] at read
          cases read
        | ok found =>
          obtain ⟨e, used⟩ := found
          rw [escape] at read
          dsimp only at read
          obtain ⟨others, rfl, more⟩ := withFirst_eq_ok read
          rw [readChars_drop] at more
          have shorter : (s.drop used).length < s.length + 1 := by
            simp only [List.length_drop]
            omega
          exact spells_of_readEscape escape (ih _ shorter more rfl)
      · rw [if_neg slash] at read
        split at read
        · cases read
        · rename_i visible
          obtain ⟨others, rfl, more⟩ := withFirst_eq_ok read
          exact .plain (by omega) quote slash (ih _ (Nat.lt_succ_self _) more rfl)

end Soundness

section Completeness

theorem Spells.ne_nil {s cs rest : Text} (spells : Spells s cs rest) : s ≠ [] := by
  cases spells <;> simp

/-- A text that spells a string and does not open with the escape of a low half joins no unit before
it. -/
theorem Spells.unjoining {s cs rest : Text} (spells : Spells s cs rest) (apart : ¬OpensLow s) :
    Unjoining s := by
  intro opens
  cases spells with
  | close rest => cases (List.cons.inj opens).1
  | plain visible quote slash more => exact absurd (List.cons.inj opens).1 slash
  | letter denotes more =>
    cases (List.cons.inj (List.cons.inj opens).2).1
    cases denotes
  | unit digits alone more =>
    exact ⟨_, digits.value _, fun isLow => apart ⟨_, _, _, rfl, digits, isLow⟩⟩
  | pair first second isHigh isLow more => exact ⟨_, first.value _, by omega⟩

theorem readChars_of_spells {s cs rest : Text} (spells : Spells s cs rest) :
    readChars 0 s = .ok (cs, rest) := by
  induction spells with
  | close rest => rfl
  | plain visible quote slash more ih =>
    rw [readChars_plain quote slash (by omega), ih]
    rfl
  | @letter letter c s cs rest denotes more ih =>
    have read : readEscape ([letter] ++ s) = .ok (c, 1) := by
      have numeric : letter ≠ 'u' := by
        rintro rfl
        cases denotes
      rw [List.singleton_append, readEscape, if_neg numeric, denotes]
    exact (readChars_escape [letter] read).trans (congrArg (withFirst c) ih)
  | unit digits alone more ih =>
    rw [readChars_unit digits more.ne_nil fun high below => more.unjoining (alone high below), ih]
    rfl
  | pair first second isHigh isLow more ih =>
    rw [readChars_units first second isHigh isLow more.ne_nil, ih]
    rfl

end Completeness

/-- A string is read exactly as it is spelled. -/
theorem readChars_eq_ok {s cs rest : Text} : readChars 0 s = .ok (cs, rest) ↔ Spells s cs rest :=
  ⟨spells_of_readChars, readChars_of_spells⟩

end ConversionRelay.Json
