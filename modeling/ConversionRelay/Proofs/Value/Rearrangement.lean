import ConversionRelay.Proofs.OrderedMap
import Mathlib.Data.List.Forall2
/-!
Values that differ in the order of fields.

Two values are rearranged if the objects in them list the same fields in different orders, however
deep they stand, while lists keep the order of their items. What is asked of an object, by key, is
answered by rearranged values, and so is everything that does not ask for its first field or its
next.

Main statements: rearranged values are interchangeable in comparisons (`Rearranged.same_congr`) and
with each other (`Rearranged.same_eq_true`).
-/
namespace ConversionRelay

open OrderedMap

namespace Value

/-- Values that differ at most in the order of the fields of objects. An object names each field
once. -/
inductive Rearranged : Value → Value → Prop
  | plain {v : Value} (flat : v.isKey = true) : Rearranged v v
  | array {items others : List Value} (length : items.length = others.length)
      (each : ∀ v w, (v, w) ∈ items.zip others → Rearranged v w) :
      Rearranged (.array items) (.array others)
  | object {fields others : Fields} (distinct : Distinct fields)
      (names : (keys fields).Perm (keys others))
      (each : ∀ key v w, lookup? fields key = some v → lookup? others key = some w →
        Rearranged v w) :
      Rearranged (.object fields) (.object others)

namespace Rearranged

variable {v w : Value} {xs ys : List Value} {fields fields' : Fields}

section Structure

theorem null : Rearranged .null .null := .plain rfl

theorem of_items (each : List.Forall₂ Rearranged xs ys) : Rearranged (.array xs) (.array ys) :=
  .array each.length_eq fun _ _ => (List.forall₂_iff_zip.mp each).2

theorem items (rearranged : Rearranged (.array xs) (.array ys)) :
    List.Forall₂ Rearranged xs ys := by
  cases rearranged with
  | plain flat => cases flat
  | array length each => exact List.forall₂_iff_zip.mpr ⟨length, fun member => each _ _ member⟩

/-- The shapes that rearranged values can have. -/
theorem shapes (rearranged : Rearranged v w) :
    (v.isKey = true ∧ v = w) ∨
      (∃ xs ys, v = .array xs ∧ w = .array ys ∧ List.Forall₂ Rearranged xs ys) ∨
      ∃ fields fields', v = .object fields ∧ w = .object fields' ∧
        Rearranged (.object fields) (.object fields') := by
  cases rearranged with
  | plain flat => exact .inl ⟨flat, rfl⟩
  | array length each =>
    have own : Rearranged (.array _) (.array _) := .array length each
    exact .inr (.inl ⟨_, _, rfl, rfl, own.items⟩)
  | object distinct names each => exact .inr (.inr ⟨_, _, rfl, rfl, .object distinct names each⟩)

theorem symm (rearranged : Rearranged v w) : Rearranged w v := by
  induction rearranged with
  | plain flat => exact .plain flat
  | array length _ ih =>
    have back : List.Forall₂ (flip Rearranged) _ _ :=
      List.forall₂_iff_zip.mpr ⟨length, fun member => ih _ _ member⟩
    exact .of_items back.flip
  | object distinct names _ ih =>
    exact .object (names.nodup_iff.mp distinct) names.symm fun key v w isV isW => ih key w v isW isV

/-- What is no list and no object has nothing to rearrange. -/
theorem eq_of_isKey (rearranged : Rearranged v w) (flat : v.isKey = true) : v = w := by
  cases rearranged with
  | plain => rfl
  | _ => cases flat

/-- What one object binds a key to is rearranged in the other. -/
theorem lookup? (rearranged : Rearranged (.object fields) (.object fields')) {key : Text}
    (bound : OrderedMap.lookup? fields key = some v) :
    ∃ w, OrderedMap.lookup? fields' key = some w ∧ Rearranged v w := by
  cases rearranged with
  | plain flat => cases flat
  | object distinct names each =>
    have member : key ∈ keys fields' := names.subset (List.mem_map_of_mem (mem_of_lookup? bound))
    cases found : OrderedMap.lookup? fields' key with
    | none => exact absurd member (lookup?_eq_none.mp found)
    | some w => exact ⟨w, rfl, each key v w bound found⟩

theorem fieldOf (rearranged : Rearranged (.object fields) (.object fields')) (key : Text) :
    Rearranged (Value.fieldOf fields key) (Value.fieldOf fields' key) := by
  unfold Value.fieldOf
  cases bound : OrderedMap.lookup? fields key with
  | some v =>
    obtain ⟨w, bound', each⟩ := rearranged.lookup? bound
    rw [bound']
    exact each
  | none =>
    cases bound' : OrderedMap.lookup? fields' key with
    | none => exact .null
    | some w =>
      obtain ⟨v, is, _⟩ := rearranged.symm.lookup? bound'
      cases bound.symm.trans is

/-- Objects with the same keys in one order are rearranged if their values are. -/
theorem of_fields (distinct : Distinct fields) (each : List.Forall₂
    (fun field field' => field.1 = field'.1 ∧ Rearranged field.2 field'.2) fields fields') :
    Rearranged (.object fields) (.object fields') := by
  have same : keys fields = keys fields' := by
    clear distinct
    induction each with
    | nil => rfl
    | cons first _ ih => rw [keys_cons, keys_cons, first.1, ih]
  refine .object distinct (same ▸ .refl _) fun key v w bound bound' => ?_
  clear distinct same
  induction each with
  | nil => cases bound
  | cons first _ ih =>
    rw [OrderedMap.lookup?_cons] at bound bound'
    rw [first.1] at bound
    split at bound
    · rename_i own
      rw [if_pos own] at bound'
      cases bound
      cases bound'
      exact first.2
    · rename_i other
      rw [if_neg other] at bound'
      exact ih bound bound'

/-- Two fields may change places. -/
theorem swapped {key key' : Text} (apart : key ≠ key') {v' w' : Value} (first : Rearranged v v')
    (second : Rearranged w w') :
    Rearranged (.object [(key, v), (key', w)]) (.object [(key', w'), (key, v')]) := by
  have distinct : [key, key'].Nodup := by simp [apart]
  refine .object distinct (.swap key' key []) fun name a b bound bound' => ?_
  have member := mem_of_lookup? bound
  simp only [List.mem_cons, List.not_mem_nil, or_false, Prod.mk.injEq] at member
  rcases member with ⟨rfl, rfl⟩ | ⟨rfl, rfl⟩
  · simp only [OrderedMap.lookup?_cons, beq_iff_eq, Ne.symm apart, if_false, if_true] at bound'
    cases bound'
    exact first
  · simp only [OrderedMap.lookup?_cons, beq_self_eq_true, if_true] at bound'
    cases bound'
    exact second

theorem refl_of_flat (distinct : Distinct fields) (flat : ∀ field ∈ fields, field.2.isKey = true) :
    Rearranged (.object fields) (.object fields) :=
  .of_fields distinct (List.forall₂_same.mpr fun field member => ⟨rfl, .plain (flat field member)⟩)

theorem distinct (rearranged : Rearranged (.object fields) (.object fields')) :
    Distinct fields := by
  cases rearranged with
  | plain flat => cases flat
  | object distinct => exact distinct

theorem length_eq (rearranged : Rearranged (.object fields) (.object fields')) :
    fields.length = fields'.length := by
  cases rearranged with
  | plain flat => cases flat
  | object _ names => simpa [keys] using names.length_eq

theorem isTruthy_eq (rearranged : Rearranged v w) : v.isTruthy = w.isTruthy := by
  have isEmpty {α : Type} {l m : List α} (length : l.length = m.length) :
      l.isEmpty = m.isEmpty := by
    rw [Bool.eq_iff_iff, List.isEmpty_iff_length_eq_zero, List.isEmpty_iff_length_eq_zero, length]
  obtain ⟨_, rfl⟩ | ⟨xs, ys, rfl, rfl, items⟩ | ⟨fields, fields', rfl, rfl, own⟩ :=
    rearranged.shapes
  · rfl
  · rw [Value.isTruthy, Value.isTruthy, isEmpty items.length_eq]
  · rw [Value.isTruthy, Value.isTruthy, isEmpty own.length_eq]

theorem itemsOrNone (rearranged : Rearranged v w) :
    List.Forall₂ Rearranged v.itemsOrNone w.itemsOrNone := by
  obtain ⟨flat, rfl⟩ | ⟨xs, ys, rfl, rfl, items⟩ | ⟨fields, fields', rfl, rfl, _⟩ :=
    rearranged.shapes
  · cases v with
    | array => cases flat
    | _ => exact .nil
  · exact items
  · exact .nil

theorem items? (rearranged : Rearranged v w) :
    Option.Rel (List.Forall₂ Rearranged) v.items? w.items? := by
  obtain ⟨flat, rfl⟩ | ⟨xs, ys, rfl, rfl, items⟩ | ⟨fields, fields', rfl, rfl, _⟩ :=
    rearranged.shapes
  · cases v with
    | array => cases flat
    | _ => exact .none
  · exact .some items
  · exact .none

theorem fields? (rearranged : Rearranged v w) : Option.Rel
    (fun fields fields' => Rearranged (.object fields) (.object fields')) v.fields? w.fields? := by
  obtain ⟨flat, rfl⟩ | ⟨xs, ys, rfl, rfl, _⟩ | ⟨fields, fields', rfl, rfl, own⟩ :=
    rearranged.shapes
  · cases v with
    | object => cases flat
    | _ => exact .none
  · exact .none
  · exact .some own

/-- Looking for the first item that something is found in, the same is found in rearranged items, if
it is in each of them. -/
theorem findSome? {α : Type} {R : α → α → Prop} {f : Value → Option α}
    (related : List.Forall₂ Rearranged xs ys)
    (each : ∀ v w, Rearranged v w → Option.Rel R (f v) (f w)) :
    Option.Rel R (xs.findSome? f) (ys.findSome? f) := by
  induction related with
  | nil => exact .none
  | @cons v w xs ys first _ ih =>
    have found := each v w first
    rw [List.findSome?_cons, List.findSome?_cons]
    generalize f v = a, f w = b at found ⊢
    cases found with
    | some related => exact .some related
    | none => exact ih

/-- A text is equal to all or none of rearranged values. -/
theorem equal_string_eq (rearranged : Rearranged v w) (s : Text) :
    v.equal (.string s) = w.equal (.string s) := by
  cases rearranged with
  | plain => rfl
  | array => simp [equal, isNaN, same]
  | object => simp [equal, isNaN, same]

end Structure

section Comparing

/-- What is no list and no object is not the same as one that is. -/
theorem same_of_isKey (flat : v.isKey = true) (bulky : w.isKey = false) :
    same v w = false ∧ same w v = false := by
  cases w with
  | array ws =>
    cases v with
    | array => cases flat
    | object => cases flat
    | _ => simp [same, sameQuantity, Quantity.ofValue?]
  | object gs =>
    cases v with
    | array => cases flat
    | object => cases flat
    | _ => simp [same, sameQuantity, Quantity.ofValue?]
  | _ => cases bulky

theorem same_self_of_isKey (flat : v.isKey = true) : same v v = true := by
  cases v with
  | array => cases flat
  | object => cases flat
  | _ => simp [same, sameQuantity, Quantity.ofValue?]

theorem sameItems_iff :
    sameItems xs ys = true ↔ List.Forall₂ (fun v w => same v w = true) xs ys := by
  induction xs generalizing ys with
  | nil => cases ys <;> simp [sameItems]
  | cons v rest ih => cases ys <;> simp [sameItems, ih]

/-- Lists are compared alike if their items are. -/
theorem sameItems_congr {xs' ys' : List Value}
    (left : List.Forall₂ (fun v v' => ∀ w w', Rearranged w w' → same v w = same v' w') xs xs')
    (right : List.Forall₂ Rearranged ys ys') : sameItems xs ys = sameItems xs' ys' := by
  induction left generalizing ys ys' with
  | nil => cases right <;> simp only [sameItems]
  | cons first _ ih =>
    cases right with
    | nil => simp only [sameItems]
    | cons second others => rw [sameItems, sameItems, first _ _ second, ih others]

/-- One object has the fields of another if every key of the first is bound to an interchangeable
value in the second. -/
theorem sameFields_iff (distinct : Distinct fields) : sameFields fields fields' = true ↔
    ∀ key v, OrderedMap.lookup? fields key = some v →
      ∃ w, OrderedMap.lookup? fields' key = some w ∧ same v w = true := by
  have each : sameFields fields fields' = true ↔ ∀ field ∈ fields,
      ∃ w, OrderedMap.lookup? fields' field.1 = some w ∧ same field.2 w = true := by
    clear distinct
    induction fields with
    | nil => simp [sameFields]
    | cons field rest ih =>
      rw [sameFields, Bool.and_eq_true, ih, List.forall_mem_cons]
      cases OrderedMap.lookup? fields' field.1 <;> simp
  rw [each]
  constructor
  · intro each key v bound
    exact each (key, v) (mem_of_lookup? bound)
  · intro each field member
    exact each field.1 field.2 (lookup?_of_mem distinct member)

/-- Fields are found again in a rearranged object, if what they are bound to compares alike. -/
theorem sameFields_of_rearranged {gs gs' : Fields} (distinct : Distinct fields)
    (distinct' : Distinct fields')
    (back : ∀ key v', OrderedMap.lookup? fields' key = some v' →
      ∃ v, OrderedMap.lookup? fields key = some v ∧ ∀ w w', Rearranged w w' →
        same v w = same v' w')
    (others : Rearranged (.object gs) (.object gs')) (found : sameFields fields gs = true) :
    sameFields fields' gs' = true := by
  rw [sameFields_iff distinct']
  rw [sameFields_iff distinct] at found
  intro key v' bound'
  obtain ⟨v, bound, alike⟩ := back key v' bound'
  obtain ⟨w, among, compared⟩ := found key v bound
  obtain ⟨w', among', rearranged⟩ := others.lookup? among
  exact ⟨w', among', (alike w w' rearranged).symm.trans compared⟩

/-- Rearranging values on either side does not change a comparison. -/
theorem same_congr {v v' : Value} (left : Rearranged v v') :
    ∀ w w', Rearranged w w' → same v w = same v' w' := by
  induction left with
  | plain flat =>
    intro w w' right
    cases right with
    | plain => rfl
    | array => rw [(same_of_isKey flat rfl).1, (same_of_isKey flat rfl).1]
    | object => rw [(same_of_isKey flat rfl).1, (same_of_isKey flat rfl).1]
  | array length _ ih =>
    intro w w' right
    obtain ⟨flat, rfl⟩ | ⟨ys, ys', rfl, rfl, items⟩ | ⟨gs, gs', rfl, rfl, _⟩ := right.shapes
    · rw [(same_of_isKey flat rfl).2, (same_of_isKey flat rfl).2]
    · rw [same, same]
      exact sameItems_congr (List.forall₂_iff_zip.mpr ⟨length, fun member => ih _ _ member⟩) items
    · simp only [same]
  | @object fields fields' distinct names each ih =>
    intro w w' right
    have own : Rearranged (.object fields) (.object fields') := .object distinct names each
    obtain ⟨flat, rfl⟩ | ⟨ys, ys', rfl, rfl, _⟩ | ⟨gs, gs', rfl, rfl, others⟩ := right.shapes
    · rw [(same_of_isKey flat rfl).2, (same_of_isKey flat rfl).2]
    · simp only [same]
    · rw [same, same, own.length_eq, others.length_eq]
      congr 1
      rw [Bool.eq_iff_iff]
      constructor
      · refine sameFields_of_rearranged distinct own.symm.distinct ?_ others
        intro key v' bound'
        obtain ⟨v, bound, _⟩ := own.symm.lookup? bound'
        exact ⟨v, bound, ih key v v' bound bound'⟩
      · refine sameFields_of_rearranged own.symm.distinct distinct ?_ others.symm
        intro key v bound
        obtain ⟨v', bound', _⟩ := own.lookup? bound
        exact ⟨v', bound', fun w' w back => (ih key v v' bound bound' w w' back.symm).symm⟩

/-- Rearranged values are interchangeable. -/
theorem same_eq_true (rearranged : Rearranged v w) : same v w = true := by
  induction rearranged with
  | plain flat => exact same_self_of_isKey flat
  | array length _ ih =>
    rw [same, sameItems_iff]
    exact List.forall₂_iff_zip.mpr ⟨length, fun member => ih _ _ member⟩
  | object distinct names each ih =>
    have own : Rearranged (.object _) (.object _) := .object distinct names each
    rw [same, own.length_eq, beq_self_eq_true, Bool.true_and, sameFields_iff distinct]
    intro key v bound
    obtain ⟨w, bound', _⟩ := own.lookup? bound
    exact ⟨w, bound', ih key v w bound bound'⟩

end Comparing

end Rearranged

end Value

end ConversionRelay
