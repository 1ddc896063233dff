import ConversionRelay.Container.Binding
import ConversionRelay.Proofs.OrderedMap
/-!
Bindings of containers in which names and paths are texts.

Such a container binds texts to texts, in the order in which its records bind a name first and with
the path that they bind it to last. No path is empty.

Main statement: the bindings of records that bind texts to texts are those that `boundTexts` lists
(`Bindings.ofRecords_of_bindsTexts`).
-/
namespace ConversionRelay

open OrderedMap

/-- Whether the records of a container bind nothing but texts to texts. -/
def BindsTexts (records : List Value) : Prop :=
  ∀ record ∈ records, ∀ name path, Bindings.ofRecord? record = some (name, path) →
    (∃ text, name = .string text) ∧ ∃ text, path = .string text

/-- The name and the path that a record binds, if they are texts. -/
def textBinding? (record : Value) : Option (Text × Text) :=
  match Bindings.ofRecord? record with
  | some (.string name, .string path) => some (name, path)
  | _ => none

/-- The paths of the names that records bind: a name that is bound again keeps its place and takes
the new path. -/
def boundTexts (records : List Value) : OrderedMap Text Text :=
  ofPairs (records.filterMap textBinding?)

namespace Bindings

/-- Bindings of texts to texts. -/
def ofTexts (texts : OrderedMap Text Text) : Bindings :=
  texts.map fun entry => (.string entry.1, .string entry.2)

theorem put_ofTexts (texts : OrderedMap Text Text) (name path : Text) :
    put (ofTexts texts) (.string name) (.string path) = ofTexts (put texts name path) :=
  put_map Value.string_beq Value.string texts name path

/-- A record that binds a text to a text adds them, and one that does not bind adds nothing. -/
theorem bind_ofTexts {records : List Value} (binds : BindsTexts records) {record : Value}
    (member : record ∈ records) (texts : OrderedMap Text Text) :
    bind (ofTexts texts) record = .ok (ofTexts (update texts (textBinding? record).toList)) := by
  unfold bind textBinding?
  cases bound : ofRecord? record with
  | none => rfl
  | some entry =>
    obtain ⟨⟨name, isName⟩, path, isPath⟩ := binds record member entry.1 entry.2 bound
    obtain ⟨first, second⟩ := entry
    dsimp only at isName isPath
    subst isName isPath
    simp only [Value.isKey, if_true, put_ofTexts]
    rfl

/-- The bindings of records that bind texts to texts. -/
theorem ofRecords_of_bindsTexts {records : List Value} (binds : BindsTexts records) :
    ofRecords records = .ok (ofTexts (boundTexts records)) := by
  suffices general : ∀ (rest : List Value) (texts : OrderedMap Text Text),
      (∀ record ∈ rest, record ∈ records) → rest.foldlM bind (ofTexts texts) =
        .ok (ofTexts (update texts (rest.filterMap textBinding?))) from
    general records [] fun _ member => member
  intro rest
  induction rest with
  | nil => exact fun _ _ => rfl
  | cons record rest ih =>
    intro texts among
    have later := ih (update texts (textBinding? record).toList) fun other member =>
      among other (List.mem_cons_of_mem _ member)
    rw [List.foldlM_cons, bind_ofTexts binds (among record List.mem_cons_self)]
    refine later.trans ?_
    rw [List.filterMap_cons]
    cases textBinding? record <;> rfl

end Bindings

theorem isTruthy_of_pathOfParameter? {parameter path : Value}
    (gives : Bindings.pathOfParameter? parameter = some path) : path.isTruthy = true := by
  unfold Bindings.pathOfParameter? at gives
  split at gives
  · dsimp only at gives
    split at gives
    · rename_i given
      cases gives
      exact (Bool.and_eq_true _ _ ▸ given).2
    · cases gives
  · cases gives

theorem isTruthy_of_ofRecord? {record name path : Value}
    (binds : Bindings.ofRecord? record = some (name, path)) : path.isTruthy = true := by
  unfold Bindings.ofRecord? at binds
  split at binds
  · dsimp only at binds
    split at binds
    · obtain ⟨found, gives, same⟩ := Option.map_eq_some_iff.mp binds
      cases same
      obtain ⟨parameter, _, gives⟩ := List.exists_of_findSome?_eq_some gives
      exact isTruthy_of_pathOfParameter? gives
    · cases binds
  · cases binds

theorem textBinding?_eq_some {record : Value} {name path : Text} :
    textBinding? record = some (name, path) ↔
      Bindings.ofRecord? record = some (.string name, .string path) := by
  unfold textBinding?
  constructor
  · intro binds
    split at binds
    · cases binds
      assumption
    · cases binds
  · intro binds
    rw [binds]

/-- No name is bound to an empty path. -/
theorem path_ne_nil_of_mem_boundTexts {records : List Value} {entry : Text × Text}
    (member : entry ∈ boundTexts records) : entry.2 ≠ [] := by
  obtain ⟨record, _, binds⟩ := List.mem_filterMap.mp (mem_of_mem_ofPairs member)
  have present := isTruthy_of_ofRecord? (textBinding?_eq_some.mp binds)
  simpa [Value.isTruthy] using present

end ConversionRelay
