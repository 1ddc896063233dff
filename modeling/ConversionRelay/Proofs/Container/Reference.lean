import ConversionRelay.Container.Reference
import ConversionRelay.Proofs.Text.Order
import ConversionRelay.Proofs.Value.Rearrangement
import Mathlib.Data.List.Perm.Basic
/-!
Which variables tags refer to.

The variables of tags are named once each and in the order of code points, so they are determined by
which names stand in the tags. Neither how often and where a name stands matters, nor in which order
an object lists its fields.

Main statements: tags in which the same names stand refer to the same variables
(`Reference.distinct_congr`), as rearranged tags do (`Reference.variablesOfAll_of_rearranged`).
-/
namespace ConversionRelay

theorem nodup_eraseDups {α : Type} [BEq α] [LawfulBEq α] (found : List α) :
    found.eraseDups.Nodup := by
  induction length : found.length using Nat.strongRecOn generalizing found with
  | ind n ih =>
    cases found with
    | nil => exact List.nodup_nil
    | cons first rest =>
      have shorter : (rest.filter fun other => !other == first).length < n := by
        rw [← length, List.length_cons]
        exact Nat.lt_succ_of_le (List.length_filter_le _ _)
      rw [List.eraseDups_cons, List.nodup_cons]
      refine ⟨?_, ih _ shorter _ rfl⟩
      simp [List.mem_eraseDups]

namespace Reference

section Names

/-- Which names are listed does not depend on how often or in which order they were found. -/
theorem distinct_congr {found others : List Text} (same : ∀ name, name ∈ found ↔ name ∈ others) :
    distinct found = distinct others := by
  have once : found.eraseDups.Perm others.eraseDups := by
    rw [List.perm_ext_iff_of_nodup (nodup_eraseDups found) (nodup_eraseDups others)]
    intro name
    rw [List.mem_eraseDups, List.mem_eraseDups]
    exact same name
  refine List.Perm.eq_of_pairwise (fun s t _ _ => Text.le_antisymm)
    (Text.pairwise_mergeSort _) (Text.pairwise_mergeSort _) ?_
  exact (List.mergeSort_perm _ _).trans (once.trans (List.mergeSort_perm _ _).symm)

/-- Names in the order of code points, each once. -/
def Ascending (names : List Text) : Prop := names.Pairwise fun s t => Text.le s t = true ∧ s ≠ t

instance : DecidablePred Ascending := fun names =>
  inferInstanceAs (Decidable (names.Pairwise fun s t => Text.le s t = true ∧ s ≠ t))

theorem ascending_distinct (found : List Text) : Ascending (distinct found) := by
  have once : (distinct found).Nodup :=
    (List.mergeSort_perm _ _).nodup_iff.mpr (nodup_eraseDups found)
  exact (Text.pairwise_mergeSort _).and once

/-- Names that are in order already are left as they are. -/
theorem Ascending.distinct_eq_self {names : List Text} (ascending : Ascending names) :
    distinct names = names := by
  have once : names.eraseDups.Perm names := by
    rw [List.perm_ext_iff_of_nodup (nodup_eraseDups names) (ascending.imp And.right)]
    exact fun _ => List.mem_eraseDups
  exact List.Perm.eq_of_pairwise (fun s t _ _ => Text.le_antisymm) (Text.pairwise_mergeSort _)
    (ascending.imp And.left) ((List.mergeSort_perm _ _).trans once)

theorem Ascending.mergeSort_eq_self {names : List Text} (ascending : Ascending names) :
    names.mergeSort Text.le = names :=
  List.mergeSort_of_pairwise (ascending.imp And.left)

theorem namesInItems_eq_flatMap (items : List Value) :
    namesInItems items = items.flatMap namesIn := by
  induction items with
  | nil => rfl
  | cons v rest ih => rw [namesInItems, ih, List.flatMap_cons]

theorem namesInFields_eq_flatMap (fields : Fields) :
    namesInFields fields = fields.flatMap fun field => namesIn field.2 := by
  induction fields with
  | nil => rfl
  | cons field rest ih => rw [namesInFields, ih, List.flatMap_cons]

end Names

section Rearranging

open Value OrderedMap

theorem flatMap_subset {α β : Type} {R : α → α → Prop} {f : α → List β} {xs ys : List α}
    (related : List.Forall₂ R xs ys) (each : ∀ a b, R a b → f a ⊆ f b) :
    xs.flatMap f ⊆ ys.flatMap f := by
  induction related with
  | nil => exact List.Subset.refl _
  | cons first _ ih =>
    rw [List.flatMap_cons, List.flatMap_cons]
    intro b member
    rcases List.mem_append.mp member with here | later
    · exact List.mem_append_left _ (each _ _ first here)
    · exact List.mem_append_right _ (ih later)

theorem namesIn_subset {v w : Value} (rearranged : Rearranged v w) : namesIn v ⊆ namesIn w := by
  induction rearranged with
  | plain flat => exact List.Subset.refl _
  | array length _ ih =>
    have each : List.Forall₂ (fun v w => namesIn v ⊆ namesIn w) _ _ :=
      List.forall₂_iff_zip.mpr ⟨length, fun member => ih _ _ member⟩
    rw [namesIn, namesIn, namesInItems_eq_flatMap, namesInItems_eq_flatMap]
    exact flatMap_subset each fun _ _ subset => subset
  | object distinct names each ih =>
    have own : Rearranged (.object _) (.object _) := .object distinct names each
    intro name member
    rw [namesIn, namesInFields_eq_flatMap, List.mem_flatMap] at member ⊢
    obtain ⟨field, member, stands⟩ := member
    have bound := lookup?_of_mem distinct member
    obtain ⟨w, bound', _⟩ := own.lookup? bound
    exact ⟨_, mem_of_lookup? bound', ih _ _ _ bound bound' stands⟩

theorem namesInParameter_subset {v w : Value} (rearranged : Rearranged v w) :
    namesInParameter v ⊆ namesInParameter w := by
  obtain ⟨_, rfl⟩ | ⟨xs, ys, rfl, rfl, items⟩ | ⟨fields, fields', rfl, rfl, own⟩ :=
    rearranged.shapes
  · exact List.Subset.refl _
  · exact namesIn_subset (.of_items items)
  · intro name member
    rw [namesInParameter, List.mem_flatMap] at member ⊢
    obtain ⟨key, known, member⟩ := member
    exact ⟨key, known, namesIn_subset (own.fieldOf key) member⟩

theorem namesInTag_subset {v w : Value} (rearranged : Rearranged v w) :
    namesInTag v ⊆ namesInTag w := by
  obtain ⟨_, rfl⟩ | ⟨xs, ys, rfl, rfl, _⟩ | ⟨fields, fields', rfl, rfl, own⟩ := rearranged.shapes
  · exact List.Subset.refl _
  · exact List.Subset.refl _
  · have parameters := own.fieldOf "parameter"
    rw [namesInTag, namesInTag]
    generalize fieldOf fields "parameter" = p, fieldOf fields' "parameter" = q at parameters ⊢
    obtain ⟨_, rfl⟩ | ⟨xs, ys, rfl, rfl, items⟩ | ⟨_, _, rfl, rfl, _⟩ := parameters.shapes
    · exact List.Subset.refl _
    · exact flatMap_subset items fun _ _ => namesInParameter_subset
    · exact List.Subset.refl _

/-- Rearranged tags refer to the same variables. -/
theorem variablesOfAll_of_rearranged {tags others : List Value}
    (rearranged : List.Forall₂ Rearranged tags others) :
    variablesOfAll tags = variablesOfAll others := by
  have back : List.Forall₂ Rearranged others tags :=
    List.Forall₂.flip (rearranged.imp fun _ _ => Rearranged.symm)
  apply distinct_congr
  intro name
  constructor
  · exact fun member => flatMap_subset rearranged (fun _ _ => namesInTag_subset) member
  · exact fun member => flatMap_subset back (fun _ _ => namesInTag_subset) member

end Rearranging

/-- The same tags, in any order and however often each of them is given, refer to the same
variables. -/
theorem variablesOfAll_congr {tags others : List Value} (same : ∀ tag, tag ∈ tags ↔ tag ∈ others) :
    variablesOfAll tags = variablesOfAll others := by
  apply distinct_congr
  intro name
  simp only [namesInTags, List.mem_flatMap, same]

end Reference

end ConversionRelay
