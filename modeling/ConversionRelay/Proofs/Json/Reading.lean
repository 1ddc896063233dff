import ConversionRelay.Proofs.Json.Spelling
/-!
What a reader has done when it succeeds.

The readers of values, of the items of a list and of the fields of an object call each other, and
count their steps. Each of them follows a few rules, told by the mark that comes next. Whatever is
to be shown of all that they return can be shown rule by rule: a relation between texts, what is
read from their fronts and what is left is said to be closed if it holds wherever the readers put
something together, given that it holds for the parts.

Main statements: what is closed under the rules holds of everything that is read
(`Closed.readings`); so whatever was read has used up some of the text (`closed_remains`).
-/
namespace ConversionRelay.Json

open Text

section Marks

theorem skipSpace_suffix (s : Text) : skipSpace s <:+ s := List.dropWhile_suffix isSpace

/-- What stands behind a mark, if a text begins with the mark. -/
def behind? (mark : CodePoint) : Text → Option Text
  | [] => none
  | c :: rest => if c = mark then some rest else none

theorem behind?_eq_none {mark : CodePoint} {s : Text} (other : ∀ rest, s ≠ mark :: rest) :
    behind? mark s = none := by
  cases s with
  | nil => rfl
  | cons c s =>
    rw [behind?, if_neg]
    rintro rfl
    exact other s rfl

theorem remains_behind? {mark : CodePoint} {s rest : Text} (stands : behind? mark s = some rest) :
    Remains rest s := by
  cases s with
  | nil => cases stands
  | cons c s =>
    rw [behind?] at stands
    split at stands
    · cases stands
      exact .cons c List.suffix_rfl
    · cases stands

theorem remains_behind?_skipSpace {mark : CodePoint} {s rest : Text}
    (stands : behind? mark (skipSpace s) = some rest) : Remains rest s :=
  (remains_behind? stands).within (skipSpace_suffix s)

end Marks

section Rules

variable (limits : Limits) (steps room : Nat) (s : Text)

theorem readKey_eq : readKey s =
    match behind? '\x22' s with
    | none => failAt .expectingKey s
    | some rest => (readString rest).bind fun key =>
      match behind? ':' (skipSpace key.2) with
      | some rest => .ok (key.1, skipSpace rest)
      | none => failAt .expectingColon (skipSpace key.2) := by
  unfold readKey
  split
  · rename_i rest
    rw [behind?, if_pos rfl]
    dsimp only
    cases readString rest with
    | error refusal => rfl
    | ok key =>
      dsimp only [Except.bind]
      split
      · rename_i is
        rw [is, behind?, if_pos rfl]
      · rename_i other
        rw [behind?_eq_none other]
  · rename_i other
    rw [behind?_eq_none other]

theorem readValue_quote : readValue limits (steps + 1) room (CodePoint.char '\x22' :: s) =
    (readString s).bind fun text => .ok (.string text.1, text.2) := by
  rw [readValue.eq_def]
  cases is : readString s <;> simp only [if_true, is] <;> rfl

theorem readValue_brace : readValue limits (steps + 1) (room + 1) (CodePoint.char '\x7b' :: s) =
    match behind? '\x7d' (skipSpace s) with
    | some rest => .ok (.object [], rest)
    | none => (readFields limits steps room (skipSpace s)).bind fun fields =>
      .ok (.object (OrderedMap.ofPairs fields.1), fields.2) := by
  have noQuote : CodePoint.char '\x7b' ≠ '\x22' := by decide
  rw [readValue.eq_def]
  simp only [if_neg noQuote, if_true]
  split
  · rename_i is
    rw [is, behind?, if_pos rfl]
  · rename_i other
    rw [behind?_eq_none other]
    cases readFields limits steps room (skipSpace s) <;> rfl

theorem readValue_bracket : readValue limits (steps + 1) (room + 1) (CodePoint.char '[' :: s) =
    match behind? ']' (skipSpace s) with
    | some rest => .ok (.array [], rest)
    | none => (readItems limits steps room (skipSpace s)).bind fun items =>
      .ok (.array items.1, items.2) := by
  have noQuote : CodePoint.char '[' ≠ '\x22' := by decide
  have noBrace : CodePoint.char '[' ≠ '\x7b' := by decide
  rw [readValue.eq_def]
  simp only [if_neg noQuote, if_neg noBrace, if_true]
  split
  · rename_i is
    rw [is, behind?, if_pos rfl]
  · rename_i other
    rw [behind?_eq_none other]
    cases readItems limits steps room (skipSpace s) <;> rfl

theorem readValue_scalar {c : CodePoint} (other : c ≠ '\x22' ∧ c ≠ '\x7b' ∧ c ≠ '[') :
    readValue limits (steps + 1) room (c :: s) = readScalar limits (c :: s) :=
  (if_neg other.1).trans ((if_neg other.2.1).trans (if_neg other.2.2))

theorem readItems_succ : readItems limits (steps + 1) room s =
    (readValue limits steps room s).bind fun item =>
      match behind? ']' (skipSpace item.2), behind? ',' (skipSpace item.2) with
      | some rest, _ => .ok ([item.1], rest)
      | none, some rest => (readItems limits steps room (skipSpace rest)).bind fun items =>
        .ok (item.1 :: items.1, items.2)
      | none, none => failAt .expectingComma (skipSpace item.2) := by
  rw [readItems]
  cases readValue limits steps room s with
  | error refusal => rfl
  | ok item =>
    dsimp only [Except.bind]
    split
    · rename_i is
      rw [is, behind?, if_pos rfl]
    · rename_i rest is
      rw [is]
      cases others : readItems limits steps room (skipSpace rest) <;> simp [behind?, others]
    · rename_i noBracket noComma
      rw [behind?_eq_none noBracket, behind?_eq_none noComma]

theorem readFields_succ : readFields limits (steps + 1) room s =
    (readKey s).bind fun key => (readValue limits steps room key.2).bind fun item =>
      match behind? '\x7d' (skipSpace item.2), behind? ',' (skipSpace item.2) with
      | some rest, _ => .ok ([(key.1, item.1)], rest)
      | none, some rest => (readFields limits steps room (skipSpace rest)).bind fun fields =>
        .ok ((key.1, item.1) :: fields.1, fields.2)
      | none, none => failAt .expectingComma (skipSpace item.2) := by
  rw [readFields]
  cases readKey s with
  | error refusal => rfl
  | ok key =>
    dsimp only [Except.bind]
    cases readValue limits steps room key.2 with
    | error refusal => rfl
    | ok item =>
      dsimp only
      split
      · rename_i is
        rw [is, behind?, if_pos rfl]
      · rename_i rest is
        rw [is]
        cases others : readFields limits steps room (skipSpace rest) <;> simp [behind?, others]
      · rename_i noBrace noComma
        rw [behind?_eq_none noBrace, behind?_eq_none noComma]

end Rules

/-- A relation for each of the readers, closed under the rules by which they succeed. -/
structure Closed (limits : Limits) (ofValue : Nat → Text → Value → Text → Prop)
    (ofItems : Nat → Text → List Value → Text → Prop)
    (ofFields : Nat → Text → List (Text × Value) → Text → Prop) : Prop where
  string : ∀ {room s text rest}, readString s = .ok (text, rest) →
    ofValue room (CodePoint.char '\x22' :: s) (.string text) rest
  scalar : ∀ {room s v rest}, readScalar limits s = .ok (v, rest) → ofValue room s v rest
  noFields : ∀ {room s rest}, behind? '\x7d' (skipSpace s) = some rest →
    ofValue (room + 1) (CodePoint.char '\x7b' :: s) (.object []) rest
  object : ∀ {room s fields rest}, ofFields room (skipSpace s) fields rest →
    ofValue (room + 1) (CodePoint.char '\x7b' :: s) (.object (OrderedMap.ofPairs fields)) rest
  noItems : ∀ {room s rest}, behind? ']' (skipSpace s) = some rest →
    ofValue (room + 1) (CodePoint.char '[' :: s) (.array []) rest
  array : ∀ {room s items rest}, ofItems room (skipSpace s) items rest →
    ofValue (room + 1) (CodePoint.char '[' :: s) (.array items) rest
  lastItem : ∀ {room s item next rest}, ofValue room s item next →
    behind? ']' (skipSpace next) = some rest → ofItems room s [item] rest
  item : ∀ {room s item next after items rest}, ofValue room s item next →
    behind? ',' (skipSpace next) = some after → ofItems room (skipSpace after) items rest →
      ofItems room s (item :: items) rest
  lastField : ∀ {room s key start item next rest}, readKey s = .ok (key, start) →
    ofValue room start item next → behind? '\x7d' (skipSpace next) = some rest →
      ofFields room s [(key, item)] rest
  field : ∀ {room s key start item next after fields rest}, readKey s = .ok (key, start) →
    ofValue room start item next → behind? ',' (skipSpace next) = some after →
      ofFields room (skipSpace after) fields rest → ofFields room s ((key, item) :: fields) rest

/-- The relations hold of all that is read within a number of steps. -/
structure Readings (limits : Limits) (ofValue : Nat → Text → Value → Text → Prop)
    (ofItems : Nat → Text → List Value → Text → Prop)
    (ofFields : Nat → Text → List (Text × Value) → Text → Prop) (steps : Nat) : Prop where
  value : ∀ {room s v rest}, readValue limits steps room s = .ok (v, rest) → ofValue room s v rest
  items : ∀ {room s items rest}, readItems limits steps room s = .ok (items, rest) →
    ofItems room s items rest
  fields : ∀ {room s fields rest}, readFields limits steps room s = .ok (fields, rest) →
    ofFields room s fields rest

variable {limits : Limits} {ofValue : Nat → Text → Value → Text → Prop}
  {ofItems : Nat → Text → List Value → Text → Prop}
  {ofFields : Nat → Text → List (Text × Value) → Text → Prop} {steps room : Nat} {s rest : Text}

/-- What goes on has succeeded so far. -/
theorem bind_eq_ok {ε α β : Type} {found : Except ε α} {next : α → Except ε β} {b : β}
    (done : found.bind next = .ok b) : ∃ a, found = .ok a ∧ next a = .ok b := by
  cases found with
  | error problem => cases done
  | ok a => exact ⟨a, rfl, done⟩

namespace Closed

theorem value_step (closed : Closed limits ofValue ofItems ofFields)
    (readings : Readings limits ofValue ofItems ofFields steps) {v : Value}
    (read : readValue limits (steps + 1) room s = .ok (v, rest)) : ofValue room s v rest := by
  cases s with
  | nil => cases read
  | cons c s =>
    by_cases quote : c = '\x22'
    · subst quote
      rw [readValue_quote] at read
      obtain ⟨text, is, done⟩ := bind_eq_ok read
      cases done
      exact closed.string is
    by_cases brace : c = '\x7b'
    · subst brace
      cases room with
      | zero => cases read
      | succ room =>
        rw [readValue_brace] at read
        split at read
        · rename_i closes
          cases read
          exact closed.noFields closes
        · obtain ⟨fields, is, done⟩ := bind_eq_ok read
          cases done
          exact closed.object (readings.fields is)
    by_cases bracket : c = '['
    · subst bracket
      cases room with
      | zero => cases read
      | succ room =>
        rw [readValue_bracket] at read
        split at read
        · rename_i closes
          cases read
          exact closed.noItems closes
        · obtain ⟨items, is, done⟩ := bind_eq_ok read
          cases done
          exact closed.array (readings.items is)
    · rw [readValue_scalar limits steps room s ⟨quote, brace, bracket⟩] at read
      exact closed.scalar read

theorem items_step (closed : Closed limits ofValue ofItems ofFields)
    (readings : Readings limits ofValue ofItems ofFields steps) {items : List Value}
    (read : readItems limits (steps + 1) room s = .ok (items, rest)) :
    ofItems room s items rest := by
  rw [readItems_succ] at read
  obtain ⟨item, first, goesOn⟩ := bind_eq_ok read
  split at goesOn
  · rename_i closes
    cases goesOn
    exact closed.lastItem (readings.value first) closes
  · rename_i comma
    obtain ⟨others, is, done⟩ := bind_eq_ok goesOn
    cases done
    exact closed.item (readings.value first) comma (readings.items is)
  · cases goesOn

theorem fields_step (closed : Closed limits ofValue ofItems ofFields)
    (readings : Readings limits ofValue ofItems ofFields steps) {fields : List (Text × Value)}
    (read : readFields limits (steps + 1) room s = .ok (fields, rest)) :
    ofFields room s fields rest := by
  rw [readFields_succ] at read
  obtain ⟨key, named, opens⟩ := bind_eq_ok read
  obtain ⟨item, first, goesOn⟩ := bind_eq_ok opens
  split at goesOn
  · rename_i closes
    cases goesOn
    exact closed.lastField named (readings.value first) closes
  · rename_i comma
    obtain ⟨others, is, done⟩ := bind_eq_ok goesOn
    cases done
    exact closed.field named (readings.value first) comma (readings.fields is)
  · cases goesOn

/-- What is closed under the rules holds of everything that is read. -/
theorem readings (closed : Closed limits ofValue ofItems ofFields) (steps : Nat) :
    Readings limits ofValue ofItems ofFields steps := by
  induction steps with
  | zero =>
    constructor
    · intro room s v rest read
      cases read
    · intro room s items rest read
      cases read
    · intro room s fields rest read
      cases read
  | succ steps ih => exact ⟨closed.value_step ih, closed.items_step ih, closed.fields_step ih⟩

end Closed

/-- What a text was read as stands behind its blanks, with nothing but blanks behind it. -/
theorem readValue_of_parse {text : Text} {v : Value} (read : parse text = .ok v) :
    ∃ rest, readValue .standard (2 * text.length + 1) Limits.standard.nesting (skipSpace text) =
      .ok (v, rest) ∧ skipSpace rest = [] := by
  unfold parse parseWithin at read
  split at read
  · cases read
  unfold parseDecoded readDocument at read
  split at read
  · cases read
  rename_i rest value
  split at read
  · rename_i ends
    cases read
    exact ⟨rest, value, ends⟩
  · cases read

section Progress

theorem remains_of_takeWhole {s whole rest : Text} (taken : takeWhole s = some (whole, rest)) :
    Remains rest s := by
  cases s with
  | nil => cases taken
  | cons c s =>
    rw [takeWhole] at taken
    split at taken
    · cases taken
      exact .cons c List.suffix_rfl
    · split at taken
      · cases taken
        exact .cons c (List.dropWhile_suffix _)
      · cases taken

theorem suffix_behindFraction (s : Text) : ((takeFraction s).map Prod.snd).getD s <:+ s := by
  unfold takeFraction
  split
  · rename_i c rest
    split
    · have left : rest.dropWhile CodePoint.isDigit <:+ rest := List.dropWhile_suffix _
      exact left.trans ((List.suffix_cons c rest).trans (List.suffix_cons _ _))
    · exact List.suffix_rfl
  · exact List.suffix_rfl

theorem takeSign_suffix (s : Text) : (takeSign s).2 <:+ s := by
  unfold takeSign
  split
  · exact List.suffix_cons _ _
  · exact List.suffix_cons _ _
  · exact List.suffix_rfl

theorem suffix_behindExponent (s : Text) : ((takeExponent s).map Prod.snd).getD s <:+ s := by
  cases s with
  | nil => exact List.suffix_rfl
  | cons c s =>
    rw [takeExponent]
    split
    · dsimp only
      split
      · exact List.suffix_rfl
      · have left : (takeSign s).2.dropWhile CodePoint.isDigit <:+ (takeSign s).2 :=
          List.dropWhile_suffix _
        exact left.trans ((takeSign_suffix s).trans (List.suffix_cons c s))
    · exact List.suffix_rfl

theorem remains_of_readUnsigned {limits : Limits} {negative : Bool} {start s rest : Text}
    {v : Value} (read : readUnsigned limits negative start s = .ok (v, rest)) :
    Remains rest s := by
  unfold readUnsigned at read
  split at read
  · cases read
  rename_i whole afterWhole taken
  have remains := remains_of_takeWhole taken
  dsimp only at read
  split at read
  · unfold integerOf at read
    split at read
    · cases read
    · cases read
      exact remains
  · cases read
    exact remains.of_suffix ((suffix_behindExponent _).trans (suffix_behindFraction _))

/-- A word that was read is one of the known ones and stood in front of what is left. -/
theorem word_of_readWord {s rest : Text} {v : Value} (read : readWord s = some (v, rest)) :
    ∃ word ∈ words, word.2 = v ∧ word.1 ++ rest = s := by
  obtain ⟨word, member, is⟩ := List.exists_of_findSome?_eq_some read
  split at is
  · rename_i begins
    cases is
    obtain ⟨after, rfl⟩ := List.isPrefixOf_iff_prefix.mp begins
    exact ⟨word, member, rfl, by rw [List.drop_left]⟩
  · cases is

/-- A scalar is a word or a number, which a minus may stand in front of. -/
theorem readScalar_cases {limits : Limits} {s rest : Text} {v : Value}
    (read : readScalar limits s = .ok (v, rest)) :
    (∃ word ∈ words, word.2 = v ∧ word.1 ++ rest = s) ∨
      ∃ negative start digits, digits <:+ s ∧
        readUnsigned limits negative start digits = .ok (v, rest) := by
  unfold readScalar at read
  split at read
  · rename_i word
    cases read
    exact .inl (word_of_readWord word)
  · unfold readNumber at read
    split at read
    · exact .inr ⟨_, _, _, List.suffix_cons _ _, read⟩
    · exact .inr ⟨_, _, _, List.suffix_refl _, read⟩

theorem remains_of_readScalar {limits : Limits} {s rest : Text} {v : Value}
    (read : readScalar limits s = .ok (v, rest)) : Remains rest s := by
  have nonempty : ∀ word ∈ words, 0 < word.1.length := by decide
  obtain ⟨word, member, _, rfl⟩ | ⟨_, _, digits, suffix, number⟩ := readScalar_cases read
  · have positive := nonempty word member
    refine ⟨List.suffix_append _ _, ?_⟩
    rw [List.length_append]
    omega
  · exact (remains_of_readUnsigned number).within suffix

theorem spells_of_readString {s text rest : Text} (read : readString s = .ok (text, rest)) :
    Spells s text rest := by
  unfold readString at read
  split at read
  · rename_i is
    cases read
    exact spells_of_readChars is
  · cases read
  · cases read

/-- A key is a string between marks. -/
theorem spells_of_readKey {s key rest : Text} (read : readKey s = .ok (key, rest)) :
    ∃ opened closed, Remains opened s ∧ Spells opened key closed ∧ rest <:+ closed := by
  rw [readKey_eq] at read
  split at read
  · cases read
  · rename_i opened opens
    obtain ⟨name, is, goesOn⟩ := bind_eq_ok read
    split at goesOn
    · rename_i colon
      cases goesOn
      exact ⟨opened, name.2, remains_behind? opens, spells_of_readString is,
        (skipSpace_suffix _).trans (remains_behind?_skipSpace colon).suffix⟩
    · cases goesOn

theorem remains_of_readKey {s key rest : Text} (read : readKey s = .ok (key, rest)) :
    Remains rest s := by
  obtain ⟨opened, closed, remains, spells, left⟩ := spells_of_readKey read
  exact remains.of_suffix (left.trans spells.remains.suffix)

/-- Whatever was read has used up some of the text. -/
theorem closed_remains (limits : Limits) :
    Closed limits (fun _ s _ rest => Remains rest s) (fun _ s _ rest => Remains rest s)
      (fun _ s _ rest => Remains rest s) where
  string read := .cons _ (spells_of_readString read).remains.suffix
  scalar read := remains_of_readScalar read
  noFields closes := .cons _ (remains_behind?_skipSpace closes).suffix
  object fields := .cons _ (fields.suffix.trans (skipSpace_suffix _))
  noItems closes := .cons _ (remains_behind?_skipSpace closes).suffix
  array items := .cons _ (items.suffix.trans (skipSpace_suffix _))
  lastItem first closes := first.of_suffix (remains_behind?_skipSpace closes).suffix
  item first comma others := first.of_suffix ((others.suffix.trans (skipSpace_suffix _)).trans
    (remains_behind?_skipSpace comma).suffix)
  lastField key first closes := (remains_of_readKey key).of_suffix
    ((remains_behind?_skipSpace closes).suffix.trans first.suffix)
  field key first comma others := (remains_of_readKey key).of_suffix
    (((others.suffix.trans (skipSpace_suffix _)).trans
      (remains_behind?_skipSpace comma).suffix).trans first.suffix)

theorem remains_of_readValue {limits : Limits} {steps room : Nat} {s rest : Text} {v : Value}
    (read : readValue limits steps room s = .ok (v, rest)) : Remains rest s :=
  ((closed_remains limits).readings steps).value read

end Progress

end ConversionRelay.Json
