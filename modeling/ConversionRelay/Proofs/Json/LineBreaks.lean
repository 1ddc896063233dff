import ConversionRelay.Proofs.Json.Number
import ConversionRelay.Proofs.Json.Reading
import ConversionRelay.Proofs.Text.Encoding
/-!
Reading a text whose line breaks were made plain.

A line break may only stand between tokens, where it is a blank in every convention; anywhere else
it spoils the text, and does so in every convention. So each reader comes to the same result on both
texts, with the same text left but for its line breaks. Only where a malformed text is found to be
malformed may differ.

Main statement: a text is read as the same value with plain line breaks, or refused for the same
reason but for the place of a malformation (`parse_plainLineBreaks`). The induction is over the
steps of both readers; what it needs is that each value uses up some of the text.
-/
namespace ConversionRelay.Json

open Text

/-- A reading, and one of the same text with plain line breaks. -/
inductive Alike {α : Type} : Reading α → Reading α → Prop
  | ok (a : α) (rest : Text) : Alike (.ok (a, rest)) (.ok (a, plainLineBreaks rest))
  | malformed (found other : Failure) : Alike (.error (.malformed found)) (.error (.malformed other))
  | refused (refusal : Refusal) : Alike (.error refusal) (.error refusal)

theorem Alike.failAt {α : Type} (problem other : Problem) (s t : Text) :
    Alike (Json.failAt problem s : Reading α) (Json.failAt other t) := .malformed _ _

/-- Readings that are alike stay so when the readers go on alike. -/
theorem Alike.bind {α β : Type} {found other : Reading α} (alike : Alike found other)
    {f g : α × Text → Reading β} (next : ∀ a rest, found = .ok (a, rest) →
      other = .ok (a, plainLineBreaks rest) → Alike (f (a, rest)) (g (a, plainLineBreaks rest))) :
    Alike (found.bind f) (other.bind g) := by
  cases alike with
  | ok a rest => exact next a rest rfl rfl
  | malformed => exact .malformed _ _
  | refused => exact .refused _

section Strings

theorem not_break_of_hexValue? {c : CodePoint} {value : Nat} (denotes : hexValue? c = some value) :
    ¬IsBreak c := by
  rintro (rfl | rfl)
  · cases denotes
  · cases denotes

theorem Digits.apart {ds : Text} {unit : Nat} (digits : Digits ds unit) : ∀ c ∈ ds, ¬IsBreak c := by
  have denotes := digits.value []
  rw [List.append_nil, hexUnit?.eq_def] at denotes
  split at denotes
  · rename_i a b c d rest
    split at denotes
    · rename_i first second third fourth
      have rest_nil : rest = [] := List.eq_nil_of_length_eq_zero (by simpa using digits.length)
      subst rest_nil
      intro x member
      simp only [List.mem_cons, List.not_mem_nil, or_false] at member
      rcases member with rfl | rfl | rfl | rfl
      · exact not_break_of_hexValue? first
      · exact not_break_of_hexValue? second
      · exact not_break_of_hexValue? third
      · exact not_break_of_hexValue? fourth
    · cases denotes
  · cases denotes

/-- The characters of a numeric escape. -/
theorem Digits.escape_apart {ds : Text} {unit : Nat} (digits : Digits ds unit) :
    ∀ c ∈ CodePoint.char '\\' :: CodePoint.char 'u' :: ds, ¬IsBreak c :=
  List.forall_mem_cons.mpr ⟨by decide, List.forall_mem_cons.mpr ⟨by decide, digits.apart⟩⟩

theorem not_break_of_escaped? {letter c : CodePoint} (denotes : escaped? letter = some c) :
    ¬IsBreak letter := by
  rintro (rfl | rfl)
  · cases denotes
  · cases denotes

theorem not_break_of_visible {c : CodePoint} (visible : 0x20 ≤ c.code) : ¬IsBreak c := by
  rintro (rfl | rfl) <;> exact absurd visible (by decide)

theorem opensLow_plainLineBreaks {s : Text} : OpensLow (plainLineBreaks s) ↔ OpensLow s := by
  constructor
  · rintro ⟨ds, low, rest, is, digits, isLow⟩
    obtain ⟨after, rfl, _⟩ := append_of_plainLineBreaks digits.escape_apart is
    exact ⟨ds, low, after, rfl, digits, isLow⟩
  · rintro ⟨ds, low, rest, rfl, digits, isLow⟩
    exact ⟨ds, low, plainLineBreaks rest, plainLineBreaks_append digits.escape_apart rest, digits,
      isLow⟩

theorem Spells.plainLineBreaks {s cs rest : Text} (spells : Spells s cs rest) :
    Spells (plainLineBreaks s) cs (plainLineBreaks rest) := by
  induction spells with
  | close rest =>
    rw [plainLineBreaks_cons (by decide)]
    exact .close _
  | plain visible quote slash more ih =>
    rw [plainLineBreaks_cons fun is => not_break_of_visible visible (.inl is)]
    exact .plain visible quote slash ih
  | letter denotes more ih =>
    rw [plainLineBreaks_cons (by decide),
      plainLineBreaks_cons fun is => not_break_of_escaped? denotes (.inl is)]
    exact .letter denotes ih
  | unit digits alone more ih =>
    rw [← List.cons_append, ← List.cons_append, plainLineBreaks_append digits.escape_apart]
    exact .unit digits (fun high below opens =>
      alone high below (opensLow_plainLineBreaks.mp opens)) ih
  | pair first second isHigh isLow more ih =>
    rw [← List.cons_append, ← List.cons_append, plainLineBreaks_append first.escape_apart,
      ← List.cons_append, ← List.cons_append, plainLineBreaks_append second.escape_apart]
    exact .pair first second isHigh isLow ih

theorem spells_of_plainLineBreaks {s cs rest : Text} (spells : Spells (plainLineBreaks s) cs rest) :
    ∃ after, Spells s cs after ∧ plainLineBreaks after = rest := by
  generalize is : plainLineBreaks s = t at spells
  induction spells generalizing s with
  | close rest =>
    obtain ⟨after, rfl, plain⟩ :=
      append_of_plainLineBreaks (w := [CodePoint.char '\x22']) (by decide) is
    exact ⟨after, .close after, plain⟩
  | @plain c _ _ _ visible quote slash more ih =>
    obtain ⟨after, rfl, plain⟩ := append_of_plainLineBreaks (w := [c])
      (List.forall_mem_singleton.mpr (not_break_of_visible visible)) is
    obtain ⟨rest, spells, plain⟩ := ih plain
    exact ⟨rest, .plain visible quote slash spells, plain⟩
  | @letter letter _ _ _ _ denotes more ih =>
    obtain ⟨after, rfl, plain⟩ := append_of_plainLineBreaks (w := [CodePoint.char '\\', letter])
      (List.forall_mem_cons.mpr ⟨by decide,
        List.forall_mem_singleton.mpr (not_break_of_escaped? denotes)⟩) is
    obtain ⟨rest, spells, plain⟩ := ih plain
    exact ⟨rest, .letter denotes spells, plain⟩
  | unit digits alone more ih =>
    obtain ⟨after, rfl, plain⟩ := append_of_plainLineBreaks digits.escape_apart is
    obtain ⟨rest, spells, behind⟩ := ih plain
    refine ⟨rest, .unit digits (fun high below opens => alone high below ?_) spells, behind⟩
    rw [← plain]
    exact opensLow_plainLineBreaks.mpr opens
  | pair first second isHigh isLow more ih =>
    obtain ⟨between, rfl, joined⟩ := append_of_plainLineBreaks first.escape_apart is
    obtain ⟨after, rfl, plain⟩ := append_of_plainLineBreaks second.escape_apart joined
    obtain ⟨rest, spells, behind⟩ := ih plain
    exact ⟨rest, .pair first second isHigh isLow spells, behind⟩

theorem alike_readString (s : Text) : Alike (readString s) (readString (plainLineBreaks s)) := by
  unfold readString
  cases read : readChars 0 s with
  | ok found =>
    obtain ⟨cs, rest⟩ := found
    rw [readChars_of_spells (spells_of_readChars read).plainLineBreaks]
    exact .ok cs rest
  | error failure =>
    cases plain : readChars 0 (plainLineBreaks s) with
    | ok found =>
      obtain ⟨after, spells, _⟩ := spells_of_plainLineBreaks (spells_of_readChars plain)
      rw [readChars_of_spells spells] at read
      cases read
    | error other =>
      cases failure <;> cases other <;> exact .malformed _ _

end Strings

section Scalars

/-- A result with what is left of a text whose line breaks were made plain. -/
def plainRest {α : Type} (found : α × Text) : α × Text := (found.1, plainLineBreaks found.2)

theorem isDigit_break (c : CodePoint) (breaks : IsBreak c) : c.isDigit = false := by
  rcases breaks with rfl | rfl <;> rfl

theorem dropDigits_plainLineBreaks (s : Text) :
    (plainLineBreaks s).dropWhile CodePoint.isDigit =
      plainLineBreaks (s.dropWhile CodePoint.isDigit) :=
  dropWhile_plainLineBreaks rfl s

theorem takeDigits_plainLineBreaks (s : Text) :
    (plainLineBreaks s).takeWhile CodePoint.isDigit = s.takeWhile CodePoint.isDigit :=
  takeWhile_plainLineBreaks isDigit_break s

theorem takeWhole_plainLineBreaks (s : Text) :
    takeWhole (plainLineBreaks s) = (takeWhole s).map plainRest := by
  obtain rfl | ⟨_, _, rfl, is⟩ | ⟨c, s, _, rfl, is⟩ := plainLineBreaks_cases s
  · rfl
  · rw [is]
    rfl
  · rw [is, takeWhole, takeWhole, dropDigits_plainLineBreaks, takeDigits_plainLineBreaks]
    split
    · rfl
    · split <;> rfl

theorem takeFraction_plainLineBreaks (s : Text) :
    takeFraction (plainLineBreaks s) = (takeFraction s).map plainRest := by
  obtain rfl | ⟨_, _, rfl, is⟩ | ⟨c, s, _, rfl, is⟩ := plainLineBreaks_cases s
  · rfl
  · rw [is]
    rfl
  rw [is]
  by_cases point : c = '.'
  · subst point
    obtain rfl | ⟨_, _, rfl, is⟩ | ⟨d, s, _, rfl, is⟩ := plainLineBreaks_cases s
    · rfl
    · rw [is]
      rfl
    · rw [is, takeFraction, takeFraction, dropDigits_plainLineBreaks, takeDigits_plainLineBreaks]
      split <;> rfl
  · have none (rest : Text) : takeFraction (c :: rest) = none :=
      takeFraction_eq_none fun d others same => (List.cons.inj same).1 ▸ point
    rw [none, none]
    rfl

theorem takeSign_of_other {c : CodePoint} (noMinus : c ≠ '-') (noPlus : c ≠ '+') (s : Text) :
    takeSign (c :: s) = (false, c :: s) := by
  unfold takeSign
  split
  · rename_i same
    exact absurd (List.cons.inj same).1 noMinus
  · rename_i same
    exact absurd (List.cons.inj same).1 noPlus
  · rfl

theorem takeSign_plainLineBreaks (s : Text) :
    takeSign (plainLineBreaks s) = plainRest (takeSign s) := by
  obtain rfl | ⟨_, _, rfl, is⟩ | ⟨c, s, _, rfl, is⟩ := plainLineBreaks_cases s
  · rfl
  · rw [is, takeSign_of_other (by decide) (by decide), takeSign_of_other (by decide) (by decide),
      plainRest, is]
  by_cases minus : c = '-'
  · rw [minus]
    rfl
  by_cases plus : c = '+'
  · rw [plus]
    rfl
  rw [takeSign_of_other minus plus, plainRest, is, takeSign_of_other minus plus]

theorem takeExponent_plainLineBreaks (s : Text) :
    takeExponent (plainLineBreaks s) = (takeExponent s).map plainRest := by
  obtain rfl | ⟨_, _, rfl, is⟩ | ⟨c, s, _, rfl, is⟩ := plainLineBreaks_cases s
  · rfl
  · rw [is]
    rfl
  rw [is, takeExponent, takeExponent, takeSign_plainLineBreaks]
  dsimp only [plainRest]
  rw [takeDigits_plainLineBreaks, dropDigits_plainLineBreaks]
  split
  · split <;> rfl
  · rfl

theorem words_apart : ∀ word ∈ words, ∀ c ∈ word.1, ¬IsBreak c := by decide

theorem isPrefixOf_plainLineBreaks {w : Text} (apart : ∀ c ∈ w, ¬IsBreak c) (s : Text) :
    w.isPrefixOf (plainLineBreaks s) = w.isPrefixOf s := by
  rw [Bool.eq_iff_iff, List.isPrefixOf_iff_prefix, List.isPrefixOf_iff_prefix]
  constructor
  · rintro ⟨rest, is⟩
    obtain ⟨after, rfl, _⟩ := append_of_plainLineBreaks apart is.symm
    exact List.prefix_append w after
  · rintro ⟨rest, rfl⟩
    rw [plainLineBreaks_append apart]
    exact List.prefix_append w _

/-- A word is found at the front of a text whatever the line breaks behind it are. -/
theorem readWord_plainLineBreaks (s : Text) :
    readWord (plainLineBreaks s) = (readWord s).map plainRest := by
  unfold readWord
  suffices general : ∀ known : List (Text × Value), (∀ word ∈ known, ∀ c ∈ word.1, ¬IsBreak c) →
      (known.findSome? fun word => if word.1.isPrefixOf (plainLineBreaks s) then
        some (word.2, (plainLineBreaks s).drop word.1.length) else none) =
      (known.findSome? fun word => if word.1.isPrefixOf s then
        some (word.2, s.drop word.1.length) else none).map plainRest from general words words_apart
  intro known apart
  induction known with
  | nil => rfl
  | cons word known ih =>
    obtain ⟨first, others⟩ := List.forall_mem_cons.mp apart
    rw [List.findSome?_cons, List.findSome?_cons, isPrefixOf_plainLineBreaks first, ih others]
    cases begins : word.1.isPrefixOf s with
    | false => rfl
    | true =>
      obtain ⟨rest, rfl⟩ := List.isPrefixOf_iff_prefix.mp begins
      simp only [if_true, plainLineBreaks_append first, List.drop_left, Option.map_some, plainRest]

theorem alike_readUnsigned (limits : Limits) (negative : Bool) (start other s : Text) :
    Alike (readUnsigned limits negative start s)
      (readUnsigned limits negative other (plainLineBreaks s)) := by
  rw [readUnsigned, readUnsigned, takeWhole_plainLineBreaks]
  cases takeWhole s with
  | none => exact .failAt ..
  | some found =>
    obtain ⟨whole, afterWhole⟩ := found
    simp only [Option.map_some, plainRest, takeFraction_plainLineBreaks]
    cases takeFraction afterWhole with
    | none =>
      simp only [Option.map_none, Option.getD_none, takeExponent_plainLineBreaks]
      cases takeExponent afterWhole with
      | none =>
        simp only [Option.map_none, Option.isNone_none, Bool.and_self, if_true]
        cases integerOf limits negative whole with
        | error refusal => exact .refused refusal
        | ok v => exact .ok v afterWhole
      | some exponent => exact .ok _ _
    | some fraction =>
      simp only [Option.map_some, Option.getD_some, plainRest, takeExponent_plainLineBreaks]
      cases takeExponent fraction.2 with
      | none => exact .ok _ _
      | some exponent => exact .ok _ _

theorem readNumber_of_other (limits : Limits) {c : CodePoint} (other : c ≠ '-') (s : Text) :
    readNumber limits (c :: s) = readUnsigned limits false (c :: s) (c :: s) := by
  unfold readNumber
  split
  · rename_i same
    exact absurd (List.cons.inj same).1 other
  · rfl

theorem alike_readNumber (limits : Limits) (s : Text) :
    Alike (readNumber limits s) (readNumber limits (plainLineBreaks s)) := by
  have same := alike_readUnsigned limits false s (plainLineBreaks s) s
  obtain rfl | ⟨_, _, rfl, is⟩ | ⟨c, s, _, rfl, is⟩ := plainLineBreaks_cases s
  · exact .failAt ..
  · rw [is] at same ⊢
    rwa [readNumber_of_other limits (by decide), readNumber_of_other limits (by decide)]
  rw [is] at same ⊢
  by_cases minus : c = '-'
  · rw [minus]
    exact alike_readUnsigned limits true _ _ s
  · rwa [readNumber_of_other limits minus, readNumber_of_other limits minus]

theorem alike_readScalar (limits : Limits) (s : Text) :
    Alike (readScalar limits s) (readScalar limits (plainLineBreaks s)) := by
  rw [readScalar, readScalar, readWord_plainLineBreaks]
  cases readWord s with
  | none => exact alike_readNumber limits s
  | some found => exact .ok _ _

end Scalars

section Blanks

theorem skipSpace_plainLineBreaks (s : Text) :
    skipSpace (plainLineBreaks s) = plainLineBreaks (skipSpace s) :=
  dropWhile_plainLineBreaks rfl s

theorem behind?_plainLineBreaks {mark : CodePoint} (apart : ¬IsBreak mark) (s : Text) :
    behind? mark (plainLineBreaks s) = (behind? mark s).map plainLineBreaks := by
  obtain rfl | ⟨_, _, rfl, is⟩ | ⟨c, s, _, rfl, is⟩ := plainLineBreaks_cases s
  · rfl
  · rw [is, behind?, behind?, if_neg fun same => apart (.inr same.symm),
      if_neg fun same => apart (.inl same.symm)]
    rfl
  · rw [is, behind?, behind?]
    split <;> rfl

theorem behind?_skipSpace {mark : CodePoint} (apart : ¬IsBreak mark) (s : Text) :
    behind? mark (skipSpace (plainLineBreaks s)) =
      (behind? mark (skipSpace s)).map plainLineBreaks := by
  rw [skipSpace_plainLineBreaks, behind?_plainLineBreaks apart]

end Blanks

section Values

theorem alike_readKey (s : Text) : Alike (readKey s) (readKey (plainLineBreaks s)) := by
  rw [readKey_eq, readKey_eq, behind?_plainLineBreaks (by decide)]
  cases behind? '\x22' s with
  | none => exact .failAt ..
  | some rest =>
    refine (alike_readString rest).bind fun key rest _ _ => ?_
    dsimp only
    rw [behind?_skipSpace (by decide)]
    cases behind? ':' (skipSpace rest) with
    | none => exact .failAt ..
    | some rest =>
      dsimp only [Option.map_some]
      rw [skipSpace_plainLineBreaks]
      exact .ok _ _

/-- Within enough steps, all that is read is read alike. -/
structure AlikeWithin (limits : Limits) (steps fewer : Nat) : Prop where
  value : ∀ room s, 2 * s.length + 1 ≤ steps → 2 * (plainLineBreaks s).length + 1 ≤ fewer →
    Alike (readValue limits steps room s) (readValue limits fewer room (plainLineBreaks s))
  items : ∀ room s, 2 * s.length + 2 ≤ steps → 2 * (plainLineBreaks s).length + 2 ≤ fewer →
    Alike (readItems limits steps room s) (readItems limits fewer room (plainLineBreaks s))
  fields : ∀ room s, 2 * s.length + 2 ≤ steps → 2 * (plainLineBreaks s).length + 2 ≤ fewer →
    Alike (readFields limits steps room s) (readFields limits fewer room (plainLineBreaks s))

variable {limits : Limits} {steps fewer : Nat}

theorem AlikeWithin.value_step (alike : AlikeWithin limits steps fewer) (room : Nat) (s : Text)
    (enough : 2 * s.length + 1 ≤ steps + 1)
    (enough' : 2 * (plainLineBreaks s).length + 1 ≤ fewer + 1) :
    Alike (readValue limits (steps + 1) room s)
      (readValue limits (fewer + 1) room (plainLineBreaks s)) := by
  have same := alike_readScalar limits s
  obtain rfl | ⟨rest, after, rfl, is⟩ | ⟨c, s, _, rfl, is⟩ := plainLineBreaks_cases s
  · exact .failAt ..
  · rw [is] at same ⊢
    rwa [readValue_scalar limits steps room rest (by decide),
      readValue_scalar limits fewer room after (by decide)]
  rw [is] at same enough' ⊢
  have left := (skipSpace_suffix s).length_le
  have left' := (skipSpace_suffix (plainLineBreaks s)).length_le
  rw [skipSpace_plainLineBreaks] at left'
  simp only [List.length_cons] at enough enough'
  by_cases quote : c = '\x22'
  · subst quote
    rw [readValue_quote, readValue_quote]
    exact (alike_readString s).bind fun text rest _ _ => .ok _ rest
  by_cases brace : c = '\x7b'
  · subst brace
    cases room with
    | zero => exact .refused (.tooDeep .object)
    | succ room =>
      rw [readValue_brace, readValue_brace, behind?_skipSpace (by decide)]
      cases behind? '\x7d' (skipSpace s) with
      | some rest => exact .ok _ _
      | none =>
        have inner := alike.fields room (skipSpace s) (by omega) (by omega)
        rw [← skipSpace_plainLineBreaks] at inner
        exact inner.bind fun fields rest _ _ => .ok _ rest
  by_cases bracket : c = '['
  · subst bracket
    cases room with
    | zero => exact .refused (.tooDeep .array)
    | succ room =>
      rw [readValue_bracket, readValue_bracket, behind?_skipSpace (by decide)]
      cases behind? ']' (skipSpace s) with
      | some rest => exact .ok _ _
      | none =>
        have inner := alike.items room (skipSpace s) (by omega) (by omega)
        rw [← skipSpace_plainLineBreaks] at inner
        exact inner.bind fun items rest _ _ => .ok _ rest
  rwa [readValue_scalar limits steps room s ⟨quote, brace, bracket⟩,
    readValue_scalar limits fewer room (plainLineBreaks s) ⟨quote, brace, bracket⟩]

/-- Behind a comma after a value, less is left of both texts by two characters. -/
theorem shorter_of_comma {room : Nat} {s next after : Text} {item : Value}
    (read : readValue limits steps room s = .ok (item, next))
    (read' : readValue limits fewer room (plainLineBreaks s) = .ok (item, plainLineBreaks next))
    (comma : behind? ',' (skipSpace next) = some after) :
    (skipSpace after).length + 2 ≤ s.length ∧
      (plainLineBreaks (skipSpace after)).length + 2 ≤ (plainLineBreaks s).length := by
  have shorter := (remains_of_readValue read).length
  have shorter' := (remains_of_readValue read').length
  have comma' : behind? ',' (skipSpace (plainLineBreaks next)) = some (plainLineBreaks after) := by
    rw [behind?_skipSpace (by decide), comma]
    rfl
  have within := (remains_behind?_skipSpace comma).length
  have within' := (remains_behind?_skipSpace comma').length
  have left := (skipSpace_suffix after).length_le
  have left' := (skipSpace_suffix (plainLineBreaks after)).length_le
  rw [skipSpace_plainLineBreaks] at left'
  omega

theorem AlikeWithin.items_step (alike : AlikeWithin limits steps fewer) (room : Nat) (s : Text)
    (enough : 2 * s.length + 2 ≤ steps + 1)
    (enough' : 2 * (plainLineBreaks s).length + 2 ≤ fewer + 1) :
    Alike (readItems limits (steps + 1) room s)
      (readItems limits (fewer + 1) room (plainLineBreaks s)) := by
  rw [readItems_succ, readItems_succ]
  refine (alike.value room s (by omega) (by omega)).bind fun item next read read' => ?_
  dsimp only
  rw [behind?_skipSpace (by decide), behind?_skipSpace (by decide)]
  cases behind? ']' (skipSpace next) with
  | some rest => exact .ok _ rest
  | none =>
    cases comma : behind? ',' (skipSpace next) with
    | none => exact .failAt ..
    | some after =>
      obtain ⟨fits, fits'⟩ := shorter_of_comma read read' comma
      have others := alike.items room (skipSpace after) (by omega) (by omega)
      rw [← skipSpace_plainLineBreaks] at others
      exact others.bind fun items rest _ _ => .ok _ rest

theorem AlikeWithin.fields_step (alike : AlikeWithin limits steps fewer) (room : Nat) (s : Text)
    (enough : 2 * s.length + 2 ≤ steps + 1)
    (enough' : 2 * (plainLineBreaks s).length + 2 ≤ fewer + 1) :
    Alike (readFields limits (steps + 1) room s)
      (readFields limits (fewer + 1) room (plainLineBreaks s)) := by
  rw [readFields_succ, readFields_succ]
  refine (alike_readKey s).bind fun key start named named' => ?_
  have begins := (remains_of_readKey named).length
  have begins' := (remains_of_readKey named').length
  refine (alike.value room start (by omega) (by omega)).bind fun item next read read' => ?_
  dsimp only
  rw [behind?_skipSpace (by decide), behind?_skipSpace (by decide)]
  cases behind? '\x7d' (skipSpace next) with
  | some rest => exact .ok _ rest
  | none =>
    cases comma : behind? ',' (skipSpace next) with
    | none => exact .failAt ..
    | some after =>
      obtain ⟨fits, fits'⟩ := shorter_of_comma read read' comma
      have others := alike.fields room (skipSpace after) (by omega) (by omega)
      rw [← skipSpace_plainLineBreaks] at others
      exact others.bind fun fields rest _ _ => .ok _ rest

theorem alikeWithin (limits : Limits) (steps fewer : Nat) : AlikeWithin limits steps fewer := by
  induction steps generalizing fewer with
  | zero =>
    constructor
    · intro room s enough
      omega
    · intro room s enough
      omega
    · intro room s enough
      omega
  | succ steps ih =>
    cases fewer with
    | zero =>
      constructor
      · intro room s _ enough
        omega
      · intro room s _ enough
        omega
      · intro room s _ enough
        omega
    | succ fewer => exact ⟨(ih fewer).value_step, (ih fewer).items_step, (ih fewer).fields_step⟩

end Values

section Documents

/-- What a text and the same text with plain line breaks are read as: the same value, or nothing for
the same reason but for the place of a malformation. -/
inductive SameReading : Except ReadError Value → Except ReadError Value → Prop
  | same (read : Except ReadError Value) : SameReading read read
  | malformed (found other : ParseError) :
      SameReading (.error (.malformed found)) (.error (.malformed other))

theorem head?_plainLineBreaks {c : CodePoint} (apart : ¬IsBreak c) (s : Text) :
    (plainLineBreaks s).head? = some c ↔ s.head? = some c := by
  obtain rfl | ⟨_, _, rfl, is⟩ | ⟨d, s, _, rfl, is⟩ := plainLineBreaks_cases s
  · exact Iff.rfl
  · rw [is]
    exact iff_of_false (fun same => apart (.inr (Option.some.inj same).symm))
      fun same => apart (.inl (Option.some.inj same).symm)
  · rw [is]
    exact Iff.rfl

theorem parseDecoded_plainLineBreaks (limits : Limits) (s : Text) :
    SameReading (parseDecoded limits s) (parseDecoded limits (plainLineBreaks s)) := by
  have left := (skipSpace_suffix s).length_le
  have left' := (skipSpace_suffix (plainLineBreaks s)).length_le
  rw [skipSpace_plainLineBreaks] at left'
  have alike := (alikeWithin limits (2 * s.length + 1) (2 * (plainLineBreaks s).length + 1)).value
    limits.nesting (skipSpace s) (by omega) (by omega)
  rw [← skipSpace_plainLineBreaks] at alike
  unfold parseDecoded readDocument
  generalize readValue limits (2 * s.length + 1) limits.nesting (skipSpace s) = read,
    readValue limits (2 * (plainLineBreaks s).length + 1) limits.nesting
      (skipSpace (plainLineBreaks s)) = read' at alike ⊢
  cases alike with
  | malformed => exact .malformed _ _
  | refused refusal =>
    cases refusal with
    | malformed failure => exact .malformed _ _
    | tooDeep collection => exact .same _
    | tooManyDigits count => exact .same _
  | ok v rest =>
    dsimp only
    rw [skipSpace_plainLineBreaks]
    obtain empty | ⟨_, _, begins, is⟩ | ⟨_, _, _, begins, is⟩ :=
      plainLineBreaks_cases (skipSpace rest)
    · rw [empty]
      exact .same _
    · rw [is, begins]
      exact .malformed _ _
    · rw [is, begins]
      exact .malformed _ _

/-- Whatever the line breaks of a text are, it is read as the same value or refused for the same
reason, but for the place of a malformation. -/
theorem parse_plainLineBreaks (s : Text) :
    SameReading (parse s) (parse (plainLineBreaks s)) := by
  have apart : ¬IsBreak (.ofCode 0xfeff) := by decide
  unfold parse parseWithin
  by_cases mark : s.head? = some (.ofCode 0xfeff)
  · rw [if_pos mark, if_pos ((head?_plainLineBreaks apart s).mpr mark)]
    exact .malformed _ _
  · rw [if_neg mark, if_neg fun marked => mark ((head?_plainLineBreaks apart s).mp marked)]
    exact parseDecoded_plainLineBreaks .standard s

end Documents

end ConversionRelay.Json
