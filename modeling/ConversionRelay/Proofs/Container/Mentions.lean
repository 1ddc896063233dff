import ConversionRelay.Proofs.Container.Provenance
import ConversionRelay.Proofs.Container.Reference
/-!
Which strings of a tag count for its variables.

A tag refers to a name if a string refers to it that stands, at any depth, in a part of a parameter
that is looked through: the values under three keys of a parameter that is an object, and all of a
parameter that is none. Keys of objects, the other fields of a parameter and of the tag, numbers,
truth values and nulls are not strings that stand there, so they never count.

Main statement: the variables of a tag are the names that such strings refer to, and the variables
of several tags are those of each of them (`Reference.variables_reached`).
-/
namespace ConversionRelay

/-- What stands in a part of a value stands in the value. -/
theorem StandsIn.trans {whole part v : Value} {depth further : Nat}
    (outer : StandsIn whole depth part) (inner : StandsIn part further v) :
    StandsIn whole (depth + further) v := by
  induction inner with
  | whole => exact outer
  | item _ member ih => exact ih.item member
  | field _ member ih => exact ih.field member

namespace Reference

open Value

/-- A string that stands in a value, at whatever depth, refers to a name. -/
def Mentions (v : Value) (name : Text) : Prop :=
  ∃ depth s, StandsIn v depth (.string s) ∧ name ∈ names s

/-- The parts of a parameter that are looked through. -/
inductive Exposes : Value → Value → Prop
  | value (fields : Fields) : Exposes (.object fields) (fieldOf fields "value")
  | list (fields : Fields) : Exposes (.object fields) (fieldOf fields "list")
  | map (fields : Fields) : Exposes (.object fields) (fieldOf fields "map")
  | whole {v : Value} (other : ∀ fields, v ≠ .object fields) : Exposes v v

section Values

variable {whole v : Value} {depth : Nat} {name : Text}

theorem Mentions.within (part : StandsIn whole depth v) (mentions : Mentions v name) :
    Mentions whole name := by
  obtain ⟨further, s, stands, refers⟩ := mentions
  exact ⟨depth + further, s, part.trans stands, refers⟩

mutual
/-- A name that is found in a value is referred to by a string in it. -/
theorem mentions_of_mem_namesIn : ∀ v : Value, name ∈ namesIn v → Mentions v name
  | .string s, found => by
    rw [namesIn_string] at found
    exact ⟨0, s, .whole, found⟩
  | .array items, found => by
    rw [namesIn] at found
    obtain ⟨item, member, mentions⟩ := mentions_of_mem_namesInItems items found
    exact mentions.within (.item .whole member)
  | .object fields, found => by
    rw [namesIn] at found
    obtain ⟨field, member, mentions⟩ := mentions_of_mem_namesInFields fields found
    exact mentions.within (.field .whole member)
  | .null, found | .bool _, found | .int _, found | .double _, found => by
    simp [namesIn] at found

theorem mentions_of_mem_namesInItems :
    ∀ items : List Value, name ∈ namesInItems items → ∃ item ∈ items, Mentions item name
  | v :: rest, found => by
    rw [namesInItems, List.mem_append] at found
    rcases found with here | later
    · exact ⟨v, List.mem_cons_self, mentions_of_mem_namesIn v here⟩
    · obtain ⟨item, member, mentions⟩ := mentions_of_mem_namesInItems rest later
      exact ⟨item, List.mem_cons_of_mem v member, mentions⟩

theorem mentions_of_mem_namesInFields :
    ∀ fields : List (Text × Value), name ∈ namesInFields fields →
      ∃ field ∈ fields, Mentions field.2 name
  | (key, v) :: rest, found => by
    rw [namesInFields, List.mem_append] at found
    rcases found with here | later
    · exact ⟨(key, v), List.mem_cons_self, mentions_of_mem_namesIn v here⟩
    · obtain ⟨field, member, mentions⟩ := mentions_of_mem_namesInFields rest later
      exact ⟨field, List.mem_cons_of_mem (key, v) member, mentions⟩
end

/-- A value refers to whatever its parts refer to. -/
theorem namesIn_of_standsIn (stands : StandsIn whole depth v) : namesIn v ⊆ namesIn whole := by
  induction stands with
  | whole => exact List.Subset.refl _
  | item _ member ih =>
    refine List.Subset.trans (fun name found => ?_) ih
    rw [namesIn, namesInItems_eq_flatMap, List.mem_flatMap]
    exact ⟨_, member, found⟩
  | field _ member ih =>
    refine List.Subset.trans (fun name found => ?_) ih
    rw [namesIn, namesInFields_eq_flatMap, List.mem_flatMap]
    exact ⟨_, member, found⟩

theorem mem_namesIn_iff : name ∈ namesIn v ↔ Mentions v name := by
  constructor
  · exact mentions_of_mem_namesIn v
  · rintro ⟨depth, s, stands, refers⟩
    apply namesIn_of_standsIn stands
    rwa [namesIn_string]

end Values

section Tags

variable {tag parameter : Value} {name : Text}

theorem mem_namesInParameter_iff :
    name ∈ namesInParameter parameter ↔ ∃ part, Exposes parameter part ∧ Mentions part name := by
  cases parameter with
  | object fields =>
    simp only [namesInParameter, valueKeys, List.mem_flatMap, List.mem_cons, List.not_mem_nil,
      or_false, mem_namesIn_iff]
    constructor
    · rintro ⟨key, rfl | rfl | rfl, mentions⟩
      · exact ⟨_, .value fields, mentions⟩
      · exact ⟨_, .list fields, mentions⟩
      · exact ⟨_, .map fields, mentions⟩
    · rintro ⟨part, exposes, mentions⟩
      cases exposes with
      | value => exact ⟨_, .inl rfl, mentions⟩
      | list => exact ⟨_, .inr (.inl rfl), mentions⟩
      | map => exact ⟨_, .inr (.inr rfl), mentions⟩
      | whole other => exact absurd rfl (other fields)
  | _ =>
    rw [namesInParameter, mem_namesIn_iff]
    · constructor
      · intro mentions
        refine ⟨_, .whole ?_, mentions⟩
        intro fields is
        cases is
      · rintro ⟨part, ⟨⟩, mentions⟩
        exact mentions
    · intro fields is
      cases is

theorem mem_namesInTag_iff : name ∈ namesInTag tag ↔ ∃ fields parameters parameter part,
    tag = .object fields ∧ fieldOf fields "parameter" = .array parameters ∧
      parameter ∈ parameters ∧ Exposes parameter part ∧ Mentions part name := by
  unfold namesInTag
  split
  · rename_i fields
    split
    · rename_i parameters is
      simp only [List.mem_flatMap, mem_namesInParameter_iff]
      constructor
      · rintro ⟨parameter, member, part, exposes, mentions⟩
        exact ⟨fields, parameters, parameter, part, rfl, is, member, exposes, mentions⟩
      · rintro ⟨_, _, parameter, part, ⟨⟩, is', member, exposes, mentions⟩
        cases is.symm.trans is'
        exact ⟨parameter, member, part, exposes, mentions⟩
    · rename_i no
      constructor
      · rintro ⟨⟩
      · rintro ⟨_, parameters, _, _, ⟨⟩, is, _⟩
        exact absurd is (no parameters)
  · rename_i no
    constructor
    · rintro ⟨⟩
    · rintro ⟨fields, _, _, _, is, _⟩
      exact absurd is (no fields)

end Tags

section Variables

variable {found : List Text} {name : Text}

theorem mem_distinct : name ∈ distinct found ↔ name ∈ found := by
  rw [distinct, List.mem_mergeSort, List.mem_eraseDups]

theorem mem_variablesOfAll_iff {tags : List Value} :
    name ∈ variablesOfAll tags ↔ ∃ tag ∈ tags, name ∈ variablesOf tag := by
  simp only [variablesOfAll, variablesOf, namesInTags, mem_distinct, List.mem_flatMap]

/-- A tag refers to the names that strings refer to in those parts of its parameters that are looked
through, and to no others. Several tags refer to what each of them does, in whatever order and
however often they are given. -/
theorem variables_reached :
    (∀ tag name, name ∈ variablesOf tag ↔ ∃ fields parameters parameter part,
      tag = .object fields ∧ fieldOf fields "parameter" = .array parameters ∧
        parameter ∈ parameters ∧ Exposes parameter part ∧ Mentions part name) ∧
      (∀ tags name, name ∈ variablesOfAll tags ↔ ∃ tag ∈ tags, name ∈ variablesOf tag) ∧
      (∀ tags others, (∀ tag, tag ∈ tags ↔ tag ∈ others) →
        variablesOfAll tags = variablesOfAll others) ∧
      ∀ tags more name, name ∈ variablesOfAll (tags ++ more) ↔
        name ∈ variablesOfAll tags ∨ name ∈ variablesOfAll more := by
  refine ⟨fun tag name => ?_, fun tags name => mem_variablesOfAll_iff,
    fun tags others same => variablesOfAll_congr same, fun tags more name => ?_⟩
  · rw [variablesOf, mem_distinct, mem_namesInTag_iff]
  · simp only [variablesOfAll, mem_distinct, namesInTags_append, List.mem_append]

/-- A tag with a name in a list inside a parameter, a name in the key of a parameter, and a bare
string; also with another tag, in two orders. -/
theorem variables_reached_deep :
    let parts : Value := .array [.object [("value", .string "\x7b\x7bDeep\x7d\x7d")]]
    let parameter : Fields := [("key", .string "\x7b\x7bKey\x7d\x7d"), ("list", parts)]
    let bare : Value := .string "\x7b\x7bBare\x7d\x7d"
    let tag : Value := .object [("parameter", .array [.object parameter, bare])]
    let other : Value := .object [("name", .string "Other")]
    (Text.ofString "Deep" ∈ variablesOf tag ∧ Text.ofString "Bare" ∈ variablesOf tag ∧
        Text.ofString "Key" ∉ variablesOf tag) ∧
      (∀ t, t ∈ [tag, other] ↔ t ∈ [other, tag, other]) ∧
      variablesOfAll [tag, other] = variablesOfAll [other, tag, other] := by
  intro parts parameter bare tag other
  obtain ⟨reached, _, ordered, _⟩ := variables_reached
  have same : ∀ t, t ∈ [tag, other] ↔ t ∈ [other, tag, other] := fun t => by
    simp only [List.mem_cons, List.not_mem_nil, or_false]
    tauto
  have deep : Mentions parts "Deep" :=
    ⟨2, _, .field (.item .whole List.mem_cons_self) List.mem_cons_self, by decide +kernel⟩
  have listed : Exposes (.object parameter) parts := .list parameter
  refine ⟨⟨?_, ?_, ?_⟩, same, ordered _ _ same⟩
  · rw [reached]
    exact ⟨_, _, .object parameter, parts, rfl, rfl, List.mem_cons_self, listed, deep⟩
  · rw [reached]
    exact ⟨_, _, bare, bare, rfl, rfl, by simp, .whole nofun, 0, _, .whole, by decide +kernel⟩
  · rw [variablesOf, mem_distinct]
    decide +kernel

end Variables

end Reference

end ConversionRelay
