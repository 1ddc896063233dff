import ConversionRelay.Proofs.Json.Document
import ConversionRelay.Proofs.Text.Order
import ConversionRelay.Proofs.Value.Rearrangement
/-!
Texts in which fields are sorted by key.

A layout that sorts fields writes a value as the same layout without sorting writes the value with
the fields of all its objects in order (`ordered`). Ordering rearranges a value and keeps it within
the limits of a reader, so what is read back is the ordered value, and rearranged values become the
same value when they are ordered.

Main statements: a sorted text is read back as the ordered value (`parseWithin_print_sorted`), and
rearranged values are ordered alike (`ordered_congr`), so that they have one sorted text.
-/
namespace ConversionRelay.Json

open OrderedMap Value

mutual
/-- A value with the fields of all its objects in the order of their keys. -/
def ordered : Value → Value
  | .array items => .array (orderedItems items)
  | .object fields => .object (byKey (orderedFields fields))
  | v => v

/-- The items of a list, each ordered. -/
def orderedItems : List Value → List Value
  | [] => []
  | v :: rest => ordered v :: orderedItems rest

/-- The fields of an object in their places, the value of each ordered. -/
def orderedFields : List (Text × Value) → List (Text × Value)
  | [] => []
  | (k, v) :: rest => (k, ordered v) :: orderedFields rest
end

theorem orderedItems_eq_map (items : List Value) : orderedItems items = items.map ordered := by
  induction items with
  | nil => rfl
  | cons v rest ih => rw [orderedItems, ih, List.map_cons]

theorem orderedFields_eq_map (fields : List (Text × Value)) :
    orderedFields fields = fields.map fun field => (field.1, ordered field.2) := by
  induction fields with
  | nil => rfl
  | cons field rest ih => rw [orderedFields, ih, List.map_cons]

section Writing

/-- A layout without sorting. -/
def Layout.unsorted (layout : Layout) : Layout := { layout with sorted := false }

variable {layout : Layout}

theorem arrange_map (sorted : layout.sorted = true) (write : Value → Writing) (fields : Fields) :
    layout.arrange (fields.map fun field => (field.1, write field.2)) =
      (byKey fields).map fun field => (field.1, write field.2) := by
  rw [Layout.arrange, if_pos sorted]
  exact (List.map_mergeSort (s := fun a b => Text.le a.1 b.1)
    (f := fun field : Text × Value => (field.1, write field.2)) fun _ _ _ _ => rfl).symm

mutual
/-- Sorting while writing is ordering before. -/
theorem render_sorted (sorted : layout.sorted = true) (level : Nat) :
    ∀ v, render layout level v = render layout.unsorted level (ordered v)
  | .null => rfl
  | .bool true => rfl
  | .bool false => rfl
  | .int _ => rfl
  | .double _ => rfl
  | .string _ => rfl
  | .array items => by
    rw [render, ordered, render, renderItems_sorted sorted (level + 1) items]
    rfl
  | .object fields => by
    -- The texts of the fields are sorted on the left, the fields themselves on the right; either
    -- way only keys are compared.
    rw [render, ordered, render, renderFields_sorted sorted (level + 1) fields,
      renderFields_eq_map, arrange_map sorted, renderFields_eq_map]
    rfl

theorem renderItems_sorted (sorted : layout.sorted = true) (level : Nat) :
    ∀ items, renderItems layout level items =
      renderItems layout.unsorted level (orderedItems items)
  | [] => rfl
  | v :: rest => by
    rw [renderItems, orderedItems, renderItems, render_sorted sorted level v,
      renderItems_sorted sorted level rest]

theorem renderFields_sorted (sorted : layout.sorted = true) (level : Nat) :
    ∀ fields, renderFields layout level fields =
      renderFields layout.unsorted level (orderedFields fields)
  | [] => rfl
  | (k, v) :: rest => by
    rw [renderFields, orderedFields, renderFields, render_sorted sorted level v,
      renderFields_sorted sorted level rest]
end

/-- A layout that sorts writes a value as the layout without sorting writes it ordered. -/
theorem print_sorted (sorted : layout.sorted = true) (v : Value) :
    print layout v = print layout.unsorted (ordered v) :=
  congrFun (render_sorted sorted 0 v) []

end Writing

section Ordering

variable {limits : Limits} {room : Nat}

theorem mem_ordered_fields {fields : Fields} {field : Text × Value}
    (member : field ∈ byKey (orderedFields fields)) :
    ∃ own ∈ fields, field = (own.1, ordered own.2) := by
  rw [(byKey_perm _).mem_iff, orderedFields_eq_map] at member
  obtain ⟨own, isOwn, same⟩ := List.mem_map.mp member
  exact ⟨own, isOwn, same.symm⟩

theorem keys_orderedFields (fields : Fields) : keys (orderedFields fields) = keys fields := by
  rw [orderedFields_eq_map, keys, List.map_map]
  rfl

theorem distinct_orderedFields {fields : Fields} (distinct : Distinct fields) :
    Distinct (orderedFields fields) := by
  rwa [Distinct, keys_orderedFields]

theorem lookup?_orderedFields (fields : Fields) (key : Text) :
    lookup? (orderedFields fields) key = (lookup? fields key).map ordered := by
  rw [orderedFields_eq_map]
  exact lookup?_map _ _ _

/-- Ordering keeps a document within the limits. -/
theorem Document.ordered {v : Value} (document : Document limits room v) :
    Document limits room (ordered v) := by
  induction document with
  | null room => exact .null room
  | bool room b => exact .bool room b
  | int room n short => exact .int room n short
  | double room x number => exact .double room x number
  | string room s => exact .string room s
  | array room items _ ih =>
    rw [Json.ordered, orderedItems_eq_map]
    exact .array room _ (List.forall_mem_map.mpr ih)
  | object room fields distinct _ ih =>
    rw [Json.ordered]
    refine .object room _ (distinct_byKey (distinct_orderedFields distinct)) fun field member => ?_
    obtain ⟨own, isOwn, rfl⟩ := mem_ordered_fields member
    exact ih own isOwn

/-- Ordering brings no halves together. -/
theorem HalvesApart.ordered {v : Value} (apart : HalvesApart v) : HalvesApart (ordered v) := by
  induction apart with
  | null => exact .null
  | bool b => exact .bool b
  | int n => exact .int n
  | double x => exact .double x
  | string s apart => exact .string s apart
  | array items _ ih =>
    rw [Json.ordered, orderedItems_eq_map]
    exact .array _ (List.forall_mem_map.mpr ih)
  | object fields keys _ ih =>
    rw [Json.ordered]
    refine .object _ (fun field member => ?_) fun field member => ?_
    · obtain ⟨own, isOwn, rfl⟩ := mem_ordered_fields member
      exact keys own isOwn
    · obtain ⟨own, isOwn, rfl⟩ := mem_ordered_fields member
      exact ih own isOwn

/-- Ordering a document rearranges it. -/
theorem Document.rearranged_ordered {v : Value} (document : Document limits room v) :
    Rearranged v (Json.ordered v) := by
  induction document with
  | null room => exact .plain rfl
  | bool room b => exact .plain rfl
  | int room n short => exact .plain rfl
  | double room x number => exact .plain rfl
  | string room s => exact .plain rfl
  | array room items _ ih =>
    rw [Json.ordered, orderedItems_eq_map]
    exact .of_items (List.forall₂_map_right_iff.mpr (List.forall₂_same.mpr ih))
  | object room fields distinct _ ih =>
    have names : (keys fields).Perm (keys (byKey (orderedFields fields))) := by
      rw [← keys_orderedFields fields]
      exact ((byKey_perm _).map Prod.fst).symm
    refine .object distinct names fun key v w bound bound' => ?_
    rw [lookup?_byKey (distinct_orderedFields distinct), lookup?_orderedFields, bound] at bound'
    cases bound'
    exact ih (key, v) (mem_of_lookup? bound)

/-- An object whose fields are in order, with values that are, is ordered already. -/
theorem ordered_eq_self {fields : Fields}
    (sorted : fields.Pairwise fun a b => Text.le a.1 b.1 = true)
    (each : ∀ field ∈ fields, ordered field.2 = field.2) :
    ordered (.object fields) = .object fields := by
  have same : orderedFields fields = fields := by
    rw [orderedFields_eq_map]
    refine (List.map_congr_left fun field member => ?_).trans (List.map_id fields)
    exact Prod.ext rfl (each field member)
  rw [ordered, same, byKey, List.mergeSort_of_pairwise sorted]

/-- Objects are ordered alike if they bind the same keys to values that are ordered alike. -/
theorem ordered_object_iff {fields others : Fields} (distinct : Distinct fields)
    (distinct' : Distinct others) :
    ordered (.object fields) = ordered (.object others) ↔
      ∀ key, (lookup? fields key).map ordered = (lookup? others key).map ordered := by
  have own := distinct_orderedFields distinct
  have own' := distinct_orderedFields distinct'
  rw [ordered, ordered, Value.object.injEq]
  constructor
  · intro same key
    rw [← lookup?_orderedFields, ← lookup?_orderedFields, ← lookup?_byKey own,
      ← lookup?_byKey own', same]
  · intro same
    refine byKey_congr own ((perm_iff own own').mpr fun key => ?_)
    rw [lookup?_orderedFields, lookup?_orderedFields, same key]

/-- Rearranged values are ordered alike. -/
theorem ordered_congr {v w : Value} (rearranged : Rearranged v w) : ordered v = ordered w := by
  induction rearranged with
  | plain _ => rfl
  | @array items others length _ ih =>
    have each : List.Forall₂ (fun v w => ordered v = ordered w) items others :=
      List.forall₂_iff_zip.mpr ⟨length, fun member => ih _ _ member⟩
    have same : items.map ordered = others.map ordered := by
      rwa [← List.forall₂_eq_eq_eq, List.forall₂_map_left_iff, List.forall₂_map_right_iff]
    rw [ordered, ordered, orderedItems_eq_map, orderedItems_eq_map, same]
  | @object fields others distinct names each ih =>
    have own : Rearranged (.object fields) (.object others) := .object distinct names each
    refine (ordered_object_iff distinct own.symm.distinct).mpr fun key => ?_
    cases bound : lookup? fields key with
    | some v =>
      obtain ⟨w, bound', _⟩ := own.lookup? bound
      rw [bound', Option.map_some, Option.map_some, ih key v w bound bound']
    | none =>
      have absent : key ∉ keys others := fun member =>
        lookup?_eq_none.mp bound (names.mem_iff.mpr member)
      rw [lookup?_eq_none.mpr absent]

end Ordering

section Reading

variable {layout : Layout} {limits : Limits}

/-- A sorted text of a document is read back as the ordered document, its strings paired. -/
theorem parseWithin_print_sorted (sorted : layout.sorted = true) (escaped : layout.escaped = true)
    {v : Value} (document : Document limits limits.nesting v) :
    parseWithin limits (print layout v) = .ok (reread (ordered v)) := by
  have unsorted : layout.unsorted.sorted = false := rfl
  rw [print_sorted sorted]
  exact parseWithin_print unsorted escaped document.ordered.legible

/-- Values that are ordered alike have one sorted text. -/
theorem print_sorted_congr (sorted : layout.sorted = true) {v w : Value}
    (same : ordered v = ordered w) : print layout v = print layout w := by
  rw [print_sorted sorted, print_sorted sorted, same]

end Reading

end ConversionRelay.Json
