import ConversionRelay.DataLayer
import ConversionRelay.Proofs.OrderedMap
/-!
What mappings read from data layers.

Where every path of a mapping can be followed, the mapping reads as the fields whose value is not
null (`DataLayer.readFields_of_readable`). A field is among them under its name exactly if its path
resolves to such a value (`DataLayer.lookup?_valuesAt`). A word that stands where a path is expected
reads as the field of that name (`DataLayer.read_word`).
-/
namespace ConversionRelay

open OrderedMap

/-- A field, unless its value is null. -/
def present (name : Text) (v : Value) : Fields := if v.isNull then [] else [(name, v)]

namespace DataLayer

/-- A path that can be followed in a data layer, wherever it leads. -/
def Readable (layer path : Value) : Prop := ∃ v, read layer path = .ok v

/-- What a path leads to; null if it cannot be followed. -/
def valueAt (layer path : Value) : Value :=
  match read layer path with
  | .ok v => v
  | .error _ => .null

/-- The fields of a mapping whose value is not null. -/
def valuesAt (layer : Value) (mapping : Fields) : Fields :=
  mapping.flatMap fun field => present field.1 (valueAt layer field.2)

@[simp] theorem valuesAt_nil (layer : Value) : valuesAt layer [] = [] := rfl

@[simp] theorem valuesAt_cons (layer : Value) (field : Text × Value) (rest : Fields) :
    valuesAt layer (field :: rest) =
      present field.1 (valueAt layer field.2) ++ valuesAt layer rest := rfl

@[simp] theorem valuesAt_append (layer : Value) (mapping others : Fields) :
    valuesAt layer (mapping ++ others) = valuesAt layer mapping ++ valuesAt layer others :=
  List.flatMap_append

theorem read_of_readable {layer path : Value} (readable : Readable layer path) :
    read layer path = .ok (valueAt layer path) := by
  obtain ⟨v, is⟩ := readable
  rw [valueAt, is]

theorem keys_valuesAt (layer : Value) (mapping : Fields) :
    (keys (valuesAt layer mapping)).Sublist (keys mapping) := by
  induction mapping with
  | nil => exact List.Sublist.slnil
  | cons field rest ih =>
    rw [valuesAt_cons, keys, List.map_append, keys_cons]
    unfold present
    cases (valueAt layer field.2).isNull with
    | true => exact ih.cons field.1
    | false => exact ih.cons_cons field.1

/-- Where every path can be followed, reading a mapping leaves out what is null and nothing else. -/
theorem readFields_of_readable {layer : Value} {mapping : Fields}
    (readable : ∀ field ∈ mapping, Readable layer field.2) :
    readFields layer mapping = .ok (valuesAt layer mapping) := by
  induction mapping with
  | nil => rfl
  | cons field rest ih =>
    have later := ih fun other member => readable other (List.mem_cons_of_mem _ member)
    rw [readFields, read_of_readable (readable field List.mem_cons_self), later, valuesAt_cons]
    dsimp only
    unfold present
    cases (valueAt layer field.2).isNull <;> rfl

/-- A mapping is only read as fields if every path of it can be followed. -/
theorem readable_of_readFields {layer : Value} {mapping fields : Fields}
    (reads : readFields layer mapping = .ok fields) :
    ∀ field ∈ mapping, Readable layer field.2 := by
  induction mapping generalizing fields with
  | nil => exact List.forall_mem_nil _
  | cons field rest ih =>
    rw [readFields] at reads
    cases here : read layer field.2 with
    | error fault =>
      rw [here] at reads
      cases reads
    | ok found =>
      cases later : readFields layer rest with
      | error fault =>
        rw [here, later] at reads
        cases reads
      | ok others => exact List.forall_mem_cons.mpr ⟨⟨found, here⟩, ih later⟩

/-- Fields that are read from a data layer have names of the mapping, in its order. -/
theorem keys_readFields {layer : Value} {mapping fields : Fields}
    (reads : readFields layer mapping = .ok fields) : (keys fields).Sublist (keys mapping) := by
  rw [readFields_of_readable (readable_of_readFields reads)] at reads
  cases reads
  exact keys_valuesAt layer mapping

/-- What the path of a field resolves to, unless that is null. -/
def resolved? (layer : Value) (mapping : Fields) (name : Text) : Option Value :=
  ((lookup? mapping name).map (valueAt layer)).filter fun v => !v.isNull

/-- A mapping that names every field once reads each of them as what its path resolves to. -/
theorem lookup?_valuesAt {layer : Value} {mapping : Fields} (distinct : Distinct mapping)
    (name : Text) : lookup? (valuesAt layer mapping) name = resolved? layer mapping name := by
  induction mapping with
  | nil => rfl
  | cons field rest ih =>
    obtain ⟨absent, distinct⟩ := List.nodup_cons.mp distinct
    rw [valuesAt_cons, resolved?, lookup?_cons]
    by_cases own : field.1 = name
    · subst own
      have later : lookup? (valuesAt layer rest) field.1 = none :=
        lookup?_eq_none.mpr fun member => absent ((keys_valuesAt layer rest).subset member)
      rw [if_pos (beq_self_eq_true _)]
      unfold present
      cases null : (valueAt layer field.2).isNull <;> simp [lookup?_cons, Option.filter, null, later]
    · have other : ¬(field.1 == name) = true := by simpa using own
      rw [if_neg other, ← resolved?, ← ih distinct]
      unfold present
      cases (valueAt layer field.2).isNull <;> simp [lookup?_cons, own]

/-- A path with segments is walked segment by segment. -/
theorem read_path {layer : Value} {path : Text} (present : layer.isTruthy = true)
    (nonempty : path ≠ []) :
    read layer (.string path) = walk layer (Text.cut dot path) := by
  have shown := Value.isTruthy_string nonempty
  have both : (layer.isTruthy && decide (path ≠ "")) = true := by
    rw [present, Bool.true_and]
    exact decide_eq_true nonempty
  rw [read, present, shown]
  exact if_pos both

theorem read_absent {layer : Value} {path : Text}
    (absent : ¬(layer.isTruthy = true ∧ path ≠ [])) : read layer (.string path) = .ok .null := by
  apply read_of_not_truthy
  rw [Bool.and_eq_false_iff]
  by_cases present : layer.isTruthy = true
  · have empty : path = [] := Classical.not_not.mp fun nonempty => absent ⟨present, nonempty⟩
    exact .inr (by rw [empty]; rfl)
  · exact .inl (eq_false_of_ne_true present)

/-- What a data layer holds under a key of its own, null if nothing. -/
def own (layer : Value) (key : Text) : Value :=
  match layer with
  | .object fields => Value.fieldOf fields key
  | _ => .null

/-- A path of one segment leads to what the data layer holds under that key, unless the segment
denotes a position. -/
theorem read_word (layer : Value) {word : Text} (single : Text.cut dot word = [word])
    (named : Text.isDigits word = false) (nonempty : word ≠ []) :
    read layer (.string word) = .ok (own layer word) := by
  have steps : step layer word = .ok (own layer word) := by
    cases layer with
    | array items => simp only [step, own, named, Bool.false_eq_true, if_false]
    | _ => rfl
  by_cases present : layer.isTruthy = true
  · rw [read_path present nonempty, single, walk, List.foldlM_cons, steps]
    rfl
  · rw [read_absent fun walked => present walked.1]
    cases layer with
    | object fields =>
      cases fields with
      | nil => rfl
      | cons field rest => exact absurd rfl present
    | _ => rfl

end DataLayer

end ConversionRelay
