import ConversionRelay.Proofs.Json.StringRoundTrip
import ConversionRelay.Proofs.OrderedMap
/-!
What is read back of a value that was written.

A layout that keeps the order of fields writes a text of which the reader makes the same value
again, but for strings, whose halves of surrogate pairs are joined (`reread`). The limits of the
reader are kept by saying which values are legible within them: a number has to be one whose text is
read back as itself, and collections may be nested only so deep.

Main statement: a text that was written for a legible value is read as that value
(`parseWithin_print`). The induction is over the legibility of a value; what it carries along is that the
value is read wherever it is written, and that its text uses up the steps that reading it takes.
-/
namespace ConversionRelay.Json

open Text

mutual
/-- What reading makes of a value that was written: strings are paired, and of two fields whose keys
become one the first gives the place and the last the value. -/
def reread : Value → Value
  | .string s => .string (paired s)
  | .array items => .array (rereadItems items)
  | .object fields => .object (OrderedMap.ofPairs (rereadFields fields))
  | v => v

/-- What reading makes of the items of a list. -/
def rereadItems : List Value → List Value
  | [] => []
  | v :: rest => reread v :: rereadItems rest

/-- What reading makes of fields before their keys are compared. -/
def rereadFields : List (Text × Value) → List (Text × Value)
  | [] => []
  | (k, v) :: rest => (paired k, reread v) :: rereadFields rest
end

theorem rereadItems_eq_map (items : List Value) : rereadItems items = items.map reread := by
  induction items with
  | nil => rfl
  | cons v rest ih => rw [rereadItems, ih, List.map_cons]

theorem rereadFields_eq_map (fields : List (Text × Value)) :
    rereadFields fields = fields.map fun field => (paired field.1, reread field.2) := by
  induction fields with
  | nil => rfl
  | cons field rest ih => rw [rereadFields, ih, List.map_cons]

section Tokens

/-- A text with which a number before it ends: no digit, point or exponent mark comes first. -/
def Ends (tail : Text) : Prop :=
  ∀ c rest, tail = c :: rest → c.isDigit = false ∧ c ≠ '.' ∧ c ≠ 'e' ∧ c ≠ 'E'

/-- A code point that may begin a value: no blank, none of the marks that close a collection, and no
byte order mark. -/
def OpensValue (c : CodePoint) : Prop :=
  isSpace c = false ∧ c ≠ ']' ∧ c ≠ '\x7d' ∧ c ≠ .ofCode 0xfeff

instance : DecidablePred OpensValue := fun c => by unfold OpensValue; infer_instance

/-- A code point that begins a number or a word. -/
def OpensScalar (c : CodePoint) : Prop :=
  OpensValue c ∧ c ≠ '\x22' ∧ c ≠ '\x7b' ∧ c ≠ '['

instance : DecidablePred OpensScalar := fun c => by unfold OpensScalar; infer_instance

/-- A text is read as a scalar whatever ends it. -/
structure ScalarText (limits : Limits) (text : Text) (v : Value) : Prop where
  opens : ∃ c rest, text = c :: rest ∧ OpensScalar c
  read : ∀ tail, Ends tail → readScalar limits (text ++ tail) = .ok (v, tail)

theorem ends_of_mark {c : CodePoint} {rest : Text}
    (mark : c = ',' ∨ c = ']' ∨ c = '\x7d' ∨ c = '\n') :
    Ends (c :: rest) := by
  intro d others same
  cases same
  rcases mark with rfl | rfl | rfl | rfl <;> decide

theorem ends_nil : Ends [] := by
  intro c rest same
  cases same

theorem skipSpace_of_opens {c : CodePoint} (rest : Text) (opens : isSpace c = false) :
    skipSpace (c :: rest) = c :: rest := by
  simp [skipSpace, opens]

theorem skipSpace_blanks {blanks : Text} (blank : ∀ c ∈ blanks, isSpace c = true) (s : Text) :
    skipSpace (blanks ++ s) = skipSpace s := by
  rw [skipSpace, skipSpace, List.dropWhile_append_of_pos blank]

theorem lineStart_blank (layout : Layout) (level : Nat) :
    ∀ c ∈ layout.lineStart level, isSpace c = true := by
  intro c member
  unfold Layout.lineStart at member
  split at member
  · cases member
  · rcases List.mem_cons.mp member with rfl | member
    · decide
    · rw [List.eq_of_mem_replicate member]
      decide

/-- A separator is a comma and blanks. -/
theorem separator_eq (layout : Layout) (level : Nat) :
    ∃ blanks, layout.separator level = CodePoint.char ',' :: blanks ∧
      ∀ c ∈ blanks, isSpace c = true := by
  unfold Layout.separator
  split
  · split
    · exact ⟨[.char ' '], rfl, by decide⟩
    · exact ⟨[], rfl, by decide⟩
  · exact ⟨layout.lineStart level, rfl, lineStart_blank layout level⟩

/-- What stands behind a key is a colon and blanks. -/
theorem colon_eq (layout : Layout) :
    ∃ blanks, layout.colon = CodePoint.char ':' :: blanks ∧ ∀ c ∈ blanks, isSpace c = true := by
  unfold Layout.colon
  split
  · exact ⟨[.char ' '], rfl, by decide⟩
  · exact ⟨[], rfl, by decide⟩

/-- What ends a collection begins with a blank or with its closing mark, so it ends a number. -/
theorem ends_lineStart (layout : Layout) (level : Nat) {closing : CodePoint} (tail : Text)
    (mark : closing = ']' ∨ closing = '\x7d') :
    Ends (layout.lineStart level ++ closing :: tail) := by
  unfold Layout.lineStart
  split
  · exact ends_of_mark (.inr (mark.elim .inl fun brace => .inr (.inl brace)))
  · exact ends_of_mark (.inr (.inr (.inr rfl)))

end Tokens

section Values

/-- The values that a reader takes within its limits, inside so many collections. -/
inductive Legible (limits : Limits) : (room : Nat) → Value → Prop
  | null (room : Nat) : Legible limits room .null
  | bool (room : Nat) (b : Bool) : Legible limits room (.bool b)
  | int (room : Nat) (n : Int) (text : ScalarText limits (Decimal.ofInt n) (.int n)) :
      Legible limits room (.int n)
  | double (room : Nat) (x : Binary64)
      (text : ScalarText limits (numberStyle.write x) (.double x)) :
      Legible limits room (.double x)
  | string (room : Nat) (s : Text) : Legible limits room (.string s)
  | array (room : Nat) (items : List Value) (each : ∀ v ∈ items, Legible limits room v) :
      Legible limits (room + 1) (.array items)
  | object (room : Nat) (fields : List (Text × Value))
      (each : ∀ field ∈ fields, Legible limits room field.2) :
      Legible limits (room + 1) (.object fields)

/-- A value is read wherever it is written: its text begins like a value, is not empty, and is read
within two steps for each code point. -/
structure ReadsBack (layout : Layout) (limits : Limits) (room : Nat) (v : Value) : Prop where
  opens : ∀ level tail, ∃ c rest, render layout level v tail = c :: rest ∧ OpensValue c ∧
    tail.length ≤ rest.length
  read : ∀ level tail steps, Ends tail → 2 * (render layout level v tail).length + 1 ≤ steps →
    readValue limits steps room (render layout level v tail) = .ok (reread v, tail)

variable {layout : Layout} {limits : Limits} {room : Nat}

theorem ReadsBack.skip {v : Value} (back : ReadsBack layout limits room v) (level : Nat)
    (tail : Text) :
    skipSpace (render layout level v tail) = render layout level v tail := by
  obtain ⟨c, rest, is, opens, _⟩ := back.opens level tail
  rw [is, skipSpace_of_opens rest opens.1]

theorem ReadsBack.length_le {v : Value} (back : ReadsBack layout limits room v) (level : Nat)
    (tail : Text) : tail.length + 1 ≤ (render layout level v tail).length := by
  obtain ⟨c, rest, is, _, length⟩ := back.opens level tail
  rw [is, List.length_cons]
  omega

/-- A scalar is read where a value is expected. -/
theorem readsBack_of_scalar {text : Text} {v : Value} (scalar : ScalarText limits text v)
    (rendered : ∀ level, render layout level v = written text) (same : reread v = v) :
    ReadsBack layout limits room v := by
  obtain ⟨⟨c, rest, rfl, opens⟩, read⟩ := scalar
  refine ⟨fun level tail => ⟨c, rest ++ tail, by rw [rendered]; rfl, opens.1, by simp⟩, ?_⟩
  intro level tail steps ends enough
  obtain ⟨steps, rfl⟩ : ∃ fewer, steps = fewer + 1 := ⟨steps - 1, by omega⟩
  rw [rendered, written, same, ← read tail ends]
  simp only [List.cons_append, readValue, if_neg opens.2.1, if_neg opens.2.2.1,
    if_neg opens.2.2.2]

/-- A word is read as the value that it spells. -/
theorem scalarText_of_word {c : CodePoint} {rest : Text} {v : Value} (opens : OpensScalar c)
    (read : ∀ tail, readWord ((c :: rest) ++ tail) = some (v, tail)) :
    ScalarText limits (c :: rest) v :=
  ⟨⟨c, rest, rfl, opens⟩, fun tail _ => by rw [readScalar, read tail]⟩

theorem readsBack_string (escaped : layout.escaped = true) (s : Text) :
    ReadsBack layout limits room (.string s) := by
  refine ⟨fun level tail => ⟨'\x22', s.flatMap layout.stringChar ++ CodePoint.char '\x22' :: tail,
    ?_, ?_, ?_⟩, ?_⟩
  · simp [render, Layout.string, Text.ofString]
  · decide
  · simp only [List.length_append, List.length_cons]
    omega
  · intro level tail steps ends enough
    obtain ⟨steps, rfl⟩ : ∃ fewer, steps = fewer + 1 := ⟨steps - 1, by omega⟩
    have shape : render layout level (.string s) tail =
        CodePoint.char '\x22' ::
          (s.flatMap layout.stringChar ++ CodePoint.char '\x22' :: tail) := by
      simp [render, Layout.string, Text.ofString]
    rw [shape]
    simp only [readValue, if_true, readString_written escaped, reread]

/-- What follows the first item of a collection: the other items, each behind a separator, and the
closing mark. -/
def remainder (layout : Layout) (level : Nat) (closing : CodePoint) (others : List Writing)
    (tail : Text) : Text :=
  others.foldr (fun item rest => layout.separator (level + 1) ++ item rest)
    (layout.lineStart level ++ closing :: tail)

theorem ends_remainder (layout : Layout) (level : Nat) {closing : CodePoint}
    (others : List Writing) (tail : Text) (mark : closing = ']' ∨ closing = '\x7d') :
    Ends (remainder layout level closing others tail) := by
  cases others with
  | nil => exact ends_lineStart layout level tail mark
  | cons item others =>
    obtain ⟨blanks, is, _⟩ := separator_eq layout (level + 1)
    simp only [remainder, List.foldr_cons, is, List.cons_append]
    exact ends_of_mark (.inl rfl)

/-- The items of a list are read up to the closing bracket. -/
theorem readItems_written (level : Nat) (tail : Text) (others : List Value) (v : Value)
    (back : ∀ w ∈ v :: others, ReadsBack layout limits room w) (steps : Nat)
    (enough : 2 * (render layout (level + 1) v
      (remainder layout level ']' (renderItems layout (level + 1) others) tail)).length + 2 ≤
        steps) :
    readItems limits steps room (render layout (level + 1) v
      (remainder layout level ']' (renderItems layout (level + 1) others) tail)) =
      .ok (rereadItems (v :: others), tail) := by
  induction others generalizing v steps with
  | nil =>
    obtain ⟨steps, rfl⟩ : ∃ fewer, steps = fewer + 1 := ⟨steps - 1, by omega⟩
    have first := (back v (by simp)).read (level + 1) (remainder layout level ']' [] tail) steps
      (ends_remainder layout level [] tail (.inl rfl)) (by simpa [renderItems] using enough)
    have close : skipSpace (remainder layout level ']' [] tail) = CodePoint.char ']' :: tail := by
      rw [remainder, List.foldr_nil, skipSpace_blanks (lineStart_blank layout level)]
      rfl
    simp only [renderItems, readItems, first, close, rereadItems]
  | cons w others ih =>
    obtain ⟨steps, rfl⟩ : ∃ fewer, steps = fewer + 1 := ⟨steps - 1, by omega⟩
    obtain ⟨blanks, is, blank⟩ := separator_eq layout (level + 1)
    have behind : remainder layout level ']' (renderItems layout (level + 1) (w :: others)) tail =
        CodePoint.char ',' :: (blanks ++ render layout (level + 1) w
          (remainder layout level ']' (renderItems layout (level + 1) others) tail)) := by
      simp only [remainder, renderItems, List.foldr_cons, is, List.cons_append]
    have first := (back v (by simp)).read (level + 1)
      (remainder layout level ']' (renderItems layout (level + 1) (w :: others)) tail) steps
      (ends_remainder layout level _ tail (.inl rfl)) (by omega)
    have shorter := (back v (by simp)).length_le (level + 1)
      (remainder layout level ']' (renderItems layout (level + 1) (w :: others)) tail)
    -- The item took at least one character, so the steps that are left do for the others.
    have next := ih w (fun x member => back x (List.mem_cons_of_mem _ member)) steps (by
      rw [behind] at enough shorter
      simp only [List.length_cons, List.length_append] at enough shorter
      omega)
    simp only [readItems, first]
    rw [behind, skipSpace_of_opens _ (by decide)]
    simp only [skipSpace_blanks blank, (back w (by simp)).skip, next, rereadItems]

/-- A field is a quoted key, a colon with blanks, and its value. -/
theorem field_eq (layout : Layout) (key : Text) (value : Writing) (tail : Text) :
    ∃ blanks, (∀ c ∈ blanks, isSpace c = true) ∧ layout.field (key, value) tail =
      CodePoint.char '\x22' :: (key.flatMap layout.stringChar ++ CodePoint.char '\x22' ::
        CodePoint.char ':' :: (blanks ++ value tail)) := by
  obtain ⟨blanks, is, blank⟩ := colon_eq layout
  exact ⟨blanks, blank, by simp [Layout.field, Layout.string, Text.ofString, is]⟩

/-- A key is read up to where its value begins. -/
theorem readKey_written (escaped : layout.escaped = true) (key : Text) (value : Writing)
    (tail : Text) (opens : skipSpace (value tail) = value tail) :
    readKey (layout.field (key, value) tail) = .ok (paired key, value tail) := by
  obtain ⟨blanks, blank, is⟩ := field_eq layout key value tail
  rw [is]
  simp only [readKey, readString_written escaped]
  rw [skipSpace_of_opens _ (by decide)]
  simp only [skipSpace_blanks blank, opens]

theorem field_skip (key : Text) (value : Writing) (tail : Text) :
    skipSpace (layout.field (key, value) tail) = layout.field (key, value) tail := by
  obtain ⟨blanks, _, is⟩ := field_eq layout key value tail
  rw [is, skipSpace_of_opens _ (by decide)]

theorem length_field (layout : Layout) (key : Text) (value : Writing) (tail : Text) :
    (value tail).length + 3 ≤ (layout.field (key, value) tail).length := by
  obtain ⟨blanks, _, is⟩ := field_eq layout key value tail
  rw [is]
  simp only [List.length_append, List.length_cons]
  omega

/-- The fields of an object are read up to the closing brace. -/
theorem readFields_written (escaped : layout.escaped = true) (level : Nat) (tail : Text)
    (others : List (Text × Value)) (field : Text × Value)
    (back : ∀ other ∈ field :: others, ReadsBack layout limits room other.2) (steps : Nat)
    (enough : 2 * (layout.field (field.1, render layout (level + 1) field.2)
      (remainder layout level '\x7d'
        ((renderFields layout (level + 1) others).map layout.field) tail)).length + 2 ≤ steps) :
    readFields limits steps room (layout.field (field.1, render layout (level + 1) field.2)
      (remainder layout level '\x7d'
        ((renderFields layout (level + 1) others).map layout.field) tail)) =
      .ok (rereadFields (field :: others), tail) := by
  induction others generalizing field steps with
  | nil =>
    obtain ⟨steps, rfl⟩ : ∃ fewer, steps = fewer + 1 := ⟨steps - 1, by omega⟩
    have head := back field (by simp)
    have key := readKey_written escaped field.1 (render layout (level + 1) field.2)
      (remainder layout level '\x7d' [] tail) (head.skip _ _)
    have shorter := length_field layout field.1 (render layout (level + 1) field.2)
      (remainder layout level '\x7d' [] tail)
    have first := head.read (level + 1) (remainder layout level '\x7d' [] tail) steps
      (ends_remainder layout level [] tail (.inr rfl)) (by
        simp only [renderFields, List.map_nil] at enough
        omega)
    have close :
        skipSpace (remainder layout level '\x7d' [] tail) = CodePoint.char '\x7d' :: tail := by
      rw [remainder, List.foldr_nil, skipSpace_blanks (lineStart_blank layout level)]
      rfl
    simp only [renderFields, List.map_nil, readFields, key, first, close, rereadFields]
  | cons next others ih =>
    obtain ⟨steps, rfl⟩ : ∃ fewer, steps = fewer + 1 := ⟨steps - 1, by omega⟩
    obtain ⟨blanks, is, blank⟩ := separator_eq layout (level + 1)
    have head := back field (by simp)
    have behind : remainder layout level '\x7d'
        ((renderFields layout (level + 1) (next :: others)).map layout.field) tail =
        CodePoint.char ',' :: (blanks ++ layout.field (next.1, render layout (level + 1) next.2)
          (remainder layout level '\x7d'
            ((renderFields layout (level + 1) others).map layout.field) tail)) := by
      simp only [remainder, renderFields, List.map_cons, List.foldr_cons, is, List.cons_append]
    generalize remainder layout level '\x7d'
      ((renderFields layout (level + 1) (next :: others)).map layout.field) tail = rest at *
    have key := readKey_written escaped field.1 (render layout (level + 1) field.2) rest
      (head.skip _ _)
    have shorter := length_field layout field.1 (render layout (level + 1) field.2)
      rest
    have shortest := head.length_le (level + 1) rest
    have ends : Ends rest := behind ▸ ends_of_mark (.inl rfl)
    have first := head.read (level + 1) rest steps ends (by omega)
    have after := ih next (fun x member => back x (List.mem_cons_of_mem _ member)) steps (by
      have length := congrArg List.length behind
      simp only [List.length_cons, List.length_append] at length
      omega)
    simp only [readFields, key, first]
    rw [behind, skipSpace_of_opens _ (by decide)]
    simp only [skipSpace_blanks blank, field_skip, after, rereadFields]

theorem renderItems_eq_map (layout : Layout) (level : Nat) (items : List Value) :
    renderItems layout level items = items.map (render layout level) := by
  induction items with
  | nil => rfl
  | cons v rest ih => rw [renderItems, ih, List.map_cons]

theorem renderFields_eq_map (layout : Layout) (level : Nat) (fields : List (Text × Value)) :
    renderFields layout level fields =
      fields.map fun field => (field.1, render layout level field.2) := by
  induction fields with
  | nil => rfl
  | cons field rest ih => rw [renderFields, ih, List.map_cons]

theorem length_remainder (layout : Layout) (level : Nat) (closing : CodePoint)
    (others : List Writing) (tail : Text)
    (grow : ∀ item ∈ others, ∀ rest, List.length rest ≤ (item rest).length) :
    tail.length + 1 ≤ (remainder layout level closing others tail).length := by
  induction others with
  | nil => simp [remainder]
  | cons item others ih =>
    have below := ih fun other member => grow other (List.mem_cons_of_mem _ member)
    have step := grow item (by simp) (remainder layout level closing others tail)
    have shape : remainder layout level closing (item :: others) tail =
        layout.separator (level + 1) ++ item (remainder layout level closing others tail) := rfl
    rw [shape, List.length_append]
    omega

theorem readsBack_array (items : List Value)
    (back : ∀ v ∈ items, ReadsBack layout limits room v) :
    ReadsBack layout limits (room + 1) (.array items) := by
  cases items with
  | nil =>
    refine ⟨fun level tail => ⟨'[', CodePoint.char ']' :: tail, rfl, by decide,
      by simp⟩, ?_⟩
    intro level tail steps _ enough
    obtain ⟨steps, rfl⟩ : ∃ fewer, steps = fewer + 1 := ⟨steps - 1, by omega⟩
    rfl
  | cons v others =>
    have shape (level : Nat) (tail : Text) : render layout level (.array (v :: others)) tail =
        CodePoint.char '[' :: (layout.lineStart (level + 1) ++ render layout (level + 1) v
          (remainder layout level ']' (renderItems layout (level + 1) others) tail)) := rfl
    have first := back v (by simp)
    refine ⟨fun level tail => ⟨_, _, shape level tail, by decide, ?_⟩, ?_⟩
    · have inner := first.length_le (level + 1)
        (remainder layout level ']' (renderItems layout (level + 1) others) tail)
      have outer := length_remainder layout level ']'
        (renderItems layout (level + 1) others) tail (by
          rw [renderItems_eq_map]
          intro item member rest
          obtain ⟨w, isMember, rfl⟩ := List.mem_map.mp member
          have := (back w (List.mem_cons_of_mem _ isMember)).length_le (level + 1) rest
          omega)
      rw [List.length_append]
      omega
    · intro level tail steps _ enough
      obtain ⟨steps, rfl⟩ : ∃ fewer, steps = fewer + 1 := ⟨steps - 1, by omega⟩
      have items := readItems_written level tail others v back steps (by
        rw [shape, List.length_cons, List.length_append] at enough
        omega)
      obtain ⟨c, rest, is, opens, _⟩ := first.opens (level + 1)
        (remainder layout level ']' (renderItems layout (level + 1) others) tail)
      rw [shape]
      simp only [readValue, show ¬ (CodePoint.char '[' = '\x22') by decide,
        show ¬ (CodePoint.char '[' = '\x7b') by decide, if_true, if_false,
        skipSpace_blanks (lineStart_blank layout (level + 1)), first.skip]
      rw [is] at items ⊢
      split
      · rename_i closes
        exact absurd (List.cons.inj closes).1 opens.2.1
      · rw [items]
        rfl

/-- An object is written as its first field and the others behind it. -/
theorem render_object_cons (unsorted : layout.sorted = false) (level : Nat)
    (field : Text × Value) (others : List (Text × Value)) (tail : Text) :
    render layout level (.object (field :: others)) tail =
      CodePoint.char '\x7b' :: (layout.lineStart (level + 1) ++
        layout.field (field.1, render layout (level + 1) field.2)
          (remainder layout level '\x7d'
            ((renderFields layout (level + 1) others).map layout.field) tail)) := by
  simp only [render, renderFields, Layout.arrange, unsorted, Bool.false_eq_true, if_false,
    List.map_cons, Layout.enclose, remainder]

theorem readsBack_object (unsorted : layout.sorted = false) (escaped : layout.escaped = true)
    (fields : List (Text × Value)) (back : ∀ field ∈ fields, ReadsBack layout limits room field.2) :
    ReadsBack layout limits (room + 1) (.object fields) := by
  cases fields with
  | nil =>
    have shape (level : Nat) (tail : Text) : render layout level (.object []) tail =
        CodePoint.char '\x7b' :: CodePoint.char '\x7d' :: tail := by
      simp [render, renderFields, Layout.arrange, unsorted, Layout.enclose]
    refine ⟨fun level tail => ⟨_, _, shape level tail, by decide,
      by simp⟩, ?_⟩
    intro level tail steps _ enough
    obtain ⟨steps, rfl⟩ : ∃ fewer, steps = fewer + 1 := ⟨steps - 1, by omega⟩
    rw [shape]
    rfl
  | cons field others =>
    have shape (level : Nat) (tail : Text) :=
      render_object_cons unsorted level field others tail
    have first := back field (by simp)
    refine ⟨fun level tail => ⟨_, _, shape level tail, by decide, ?_⟩, ?_⟩
    · have inner := first.length_le (level + 1) (remainder layout level '\x7d'
        ((renderFields layout (level + 1) others).map layout.field) tail)
      have middle := length_field layout field.1 (render layout (level + 1) field.2)
        (remainder layout level '\x7d'
          ((renderFields layout (level + 1) others).map layout.field) tail)
      have outer := length_remainder layout level '\x7d'
        ((renderFields layout (level + 1) others).map layout.field) tail (by
          rw [renderFields_eq_map, List.map_map]
          intro item member rest
          obtain ⟨other, isMember, rfl⟩ := List.mem_map.mp member
          have deep := (back other (List.mem_cons_of_mem _ isMember)).length_le (level + 1) rest
          have flat := length_field layout other.1
            (render layout (level + 1) other.2) rest
          simp only [Function.comp_apply]
          omega)
      rw [List.length_append]
      omega
    · intro level tail steps _ enough
      obtain ⟨steps, rfl⟩ : ∃ fewer, steps = fewer + 1 := ⟨steps - 1, by omega⟩
      have read := readFields_written escaped level tail others field back steps (by
          rw [shape, List.length_cons, List.length_append] at enough
          omega)
      obtain ⟨blanks, _, is⟩ := field_eq layout field.1 (render layout (level + 1) field.2)
        (remainder layout level '\x7d'
          ((renderFields layout (level + 1) others).map layout.field) tail)
      rw [shape]
      simp only [readValue, show ¬ (CodePoint.char '\x7b' = '\x22') by decide, if_true, if_false,
        skipSpace_blanks (lineStart_blank layout (level + 1)), field_skip]
      rw [is] at read ⊢
      split
      · rename_i closes
        exact absurd (List.cons.inj closes).1 (by decide)
      · rw [read]
        rfl

/-- A legible value is read wherever it is written. -/
theorem readsBack_of_legible (unsorted : layout.sorted = false) (escaped : layout.escaped = true)
    {v : Value} (legible : Legible limits room v) : ReadsBack layout limits room v := by
  induction legible with
  | null room =>
    have word : ScalarText limits "null" .null := scalarText_of_word (by decide) fun tail => rfl
    exact readsBack_of_scalar word (fun _ => rfl) rfl
  | bool room b =>
    cases b with
    | true =>
      have word : ScalarText limits "true" (.bool true) :=
        scalarText_of_word (by decide) fun tail => rfl
      exact readsBack_of_scalar word (fun _ => rfl) rfl
    | false =>
      have word : ScalarText limits "false" (.bool false) :=
        scalarText_of_word (by decide) fun tail => rfl
      exact readsBack_of_scalar word (fun _ => rfl) rfl
  | int room n text => exact readsBack_of_scalar text (fun _ => by rw [render]) rfl
  | double room x text => exact readsBack_of_scalar text (fun _ => by rw [render]) rfl
  | string room s => exact readsBack_string escaped s
  | array room items _ ih => exact readsBack_array items ih
  | object room fields _ ih => exact readsBack_object unsorted escaped fields ih

end Values

/-- A text that was written for a value that is legible within limits is read within them as that
value, as far as strings allow. -/
theorem parseWithin_print {layout : Layout} {limits : Limits} (unsorted : layout.sorted = false)
    (escaped : layout.escaped = true) {v : Value} (legible : Legible limits limits.nesting v) :
    parseWithin limits (print layout v) = .ok (reread v) := by
  have back := readsBack_of_legible unsorted escaped legible
  obtain ⟨c, rest, is, opens, _⟩ := back.opens 0 []
  have noMark : (print layout v).head? ≠ some (.ofCode 0xfeff) := by
    rw [print, is]
    exact fun same => opens.2.2.2 (Option.some.inj same)
  have read := back.read 0 [] _ ends_nil (Nat.le_refl _)
  rw [parseWithin, if_neg noMark, parseDecoded, readDocument, print, back.skip, read]
  rfl

theorem parse_print {layout : Layout} (unsorted : layout.sorted = false)
    (escaped : layout.escaped = true) {v : Value}
    (legible : Legible Limits.standard Limits.standard.nesting v) :
    parse (print layout v) = .ok (reread v) :=
  parseWithin_print unsorted escaped legible

end ConversionRelay.Json
