import ConversionRelay.Proofs.OrderedMap
import ConversionRelay.Text.CodePoint
/-!
The order of texts, and what is sorted by it.

Texts are compared by the numbers of their code points. Two texts that do not come after each other
are the same, so there is one way only to put names in order, and one way only to put entries in the
order of their keys if no key stands twice.

Main statement: entries in any order are sorted by key into one list (`OrderedMap.byKey_congr`).
-/
namespace ConversionRelay

theorem CodePoint.code_injective {x y : CodePoint} (same : x.code = y.code) : x = y := by
  rw [← ofCode_code x, ← ofCode_code y, same]

namespace Text

/-- Texts that do not come after each other are the same. -/
theorem le_antisymm {s t : Text} (first : le s t = true) (second : le t s = true) : s = t := by
  induction s generalizing t with
  | nil =>
    cases t with
    | nil => rfl
    | cons y t => simp [le] at second
  | cons x s ih =>
    cases t with
    | nil => simp [le] at first
    | cons y t =>
      simp only [le, Bool.or_eq_true, Bool.and_eq_true, decide_eq_true_eq, beq_iff_eq]
        at first second
      obtain lt | ⟨same, first⟩ := first
      · omega
      obtain gt | ⟨_, second⟩ := second
      · omega
      rw [CodePoint.code_injective same, ih first second]

theorem pairwise_mergeSort (names : List Text) :
    (names.mergeSort le).Pairwise fun s t => le s t = true :=
  @List.pairwise_mergeSort Text le (fun _ _ _ => le_trans) le_total names

end Text

namespace OrderedMap

variable {α : Type} {m n : OrderedMap Text α}

/-- The entries of a map in the order of their keys. -/
def byKey (m : OrderedMap Text α) : OrderedMap Text α := m.mergeSort fun a b => Text.le a.1 b.1

theorem byKey_perm (m : OrderedMap Text α) : (byKey m).Perm m := List.mergeSort_perm _ _

theorem pairwise_byKey (m : OrderedMap Text α) :
    (byKey m).Pairwise fun a b => Text.le a.1 b.1 = true :=
  @List.pairwise_mergeSort (Text × α) (fun a b => Text.le a.1 b.1) (fun _ _ _ => Text.le_trans)
    (fun a b => Text.le_total a.1 b.1) m

theorem distinct_byKey (distinct : Distinct m) : Distinct (byKey m) :=
  ((byKey_perm m).map Prod.fst).nodup_iff.mpr distinct

theorem lookup?_byKey (distinct : Distinct m) (key : Text) :
    lookup? (byKey m) key = lookup? m key :=
  (perm_iff (distinct_byKey distinct) distinct).mp (byKey_perm m) key

/-- The same entries are sorted by key into the same list, whatever order they were in. -/
theorem byKey_congr (distinct : Distinct m) (same : m.Perm n) : byKey m = byKey n := by
  -- Entries are not told apart by their keys alone, but those of one map are.
  refine List.Perm.eq_of_pairwise (fun a b first second ab ba => ?_) (pairwise_byKey m)
    (pairwise_byKey n) ((byKey_perm m).trans (same.trans (byKey_perm n).symm))
  have key : a.1 = b.1 := Text.le_antisymm ab ba
  have value := lookup?_of_mem distinct ((byKey_perm m).mem_iff.mp first)
  have value' := lookup?_of_mem distinct (same.mem_iff.mpr ((byKey_perm n).mem_iff.mp second))
  rw [key, value'] at value
  exact Prod.ext key (Option.some.inj value).symm

/-- Entries that are in order are what they are sorted into, from any order. -/
theorem byKey_eq_of_perm (distinct : Distinct m) (same : m.Perm n)
    (sorted : n.Pairwise fun a b => Text.le a.1 b.1 = true) : byKey m = n := by
  rw [byKey_congr distinct same]
  exact List.mergeSort_of_pairwise sorted

end OrderedMap

end ConversionRelay
