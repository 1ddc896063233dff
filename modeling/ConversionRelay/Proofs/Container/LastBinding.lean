import ConversionRelay.Proofs.Container.Compilation
import Mathlib.Data.List.Induction
/-!
Which record a name takes its path from.

A record binds if it is an object with a name and a list of parameters, one of which gives a path;
the first one that does counts. Of several records that bind one name, the first gives the name its
place and the last gives it its path. Records that do not bind count for nothing, wherever they
stand, and the bindings of more records are laid over those of the records in front of them.

Main statement: the bindings of a document in which names are texts
(`Bindings.ofDocument_lastBinding`).
-/
namespace ConversionRelay

open OrderedMap

section Records

/-- A parameter gives a path: it is an object with the key of paths and a value that counts as
present. -/
def GivesPath (parameter path : Value) : Prop :=
  ∃ fields, parameter = .object fields ∧
    lookup? fields "key" = some (.string Bindings.pathParameter) ∧
    lookup? fields "value" = some path ∧ path.isTruthy = true

/-- A record binds a name to a path: it is an object with a name that counts as present and with a
list of parameters, and the path is the one that the first of them gives that gives any. -/
def Binds (record name path : Value) : Prop :=
  ∃ fields before parameter after, record = .object fields ∧
    lookup? fields "name" = some name ∧ name.isTruthy = true ∧
    lookup? fields "parameter" = some (.array (before ++ parameter :: after)) ∧
    GivesPath parameter path ∧ ∀ earlier ∈ before, ∀ other, ¬GivesPath earlier other

namespace Bindings

theorem pathOfParameter?_eq_some {parameter path : Value} :
    pathOfParameter? parameter = some path ↔ GivesPath parameter path := by
  constructor
  · intro gives
    have present := isTruthy_of_pathOfParameter? gives
    cases parameter with
    | object fields =>
      rw [pathOfParameter?] at gives
      split at gives
      · rename_i both
        obtain ⟨keyed, _⟩ := Bool.and_eq_true_iff.mp both
        have key := Value.lookup?_of_fieldOf (by simp) (Value.equal_string_iff.mp keyed)
        have value := Value.lookup?_of_fieldOf (Value.ne_null_of_isTruthy present)
          (Option.some.inj gives)
        exact ⟨fields, rfl, key, value, present⟩
      · cases gives
    | _ => cases gives
  · rintro ⟨fields, rfl, key, value, present⟩
    have keyed : (Value.fieldOf fields "key").equal (.string pathParameter) = true :=
      Value.equal_string_iff.mpr (Value.fieldOf_of_lookup? key)
    rw [pathOfParameter?, keyed, Value.fieldOf_of_lookup? value, present]
    rfl

/-- The first parameter that gives a path gives the path of the list. -/
theorem findSome?_pathOfParameter? {parameters : List Value} {path : Value} :
    parameters.findSome? pathOfParameter? = some path ↔ ∃ before parameter after,
      parameters = before ++ parameter :: after ∧ GivesPath parameter path ∧
        ∀ earlier ∈ before, ∀ other, ¬GivesPath earlier other := by
  rw [List.findSome?_eq_some_iff]
  simp only [pathOfParameter?_eq_some, Option.eq_none_iff_forall_ne_some, ne_eq]

theorem ofRecord?_eq_some {record name path : Value} :
    ofRecord? record = some (name, path) ↔ Binds record name path := by
  constructor
  · intro binds
    cases record with
    | object fields =>
      rw [ofRecord?] at binds
      split at binds
      · rename_i present
        obtain ⟨_, found, same⟩ := Option.map_eq_some_iff.mp binds
        cases same
        obtain ⟨before, parameter, after, split, gives, first⟩ :=
          findSome?_pathOfParameter?.1 found
        have listed : Value.fieldOf fields "parameter" =
            .array (before ++ parameter :: after) := by
          cases parameters : Value.fieldOf fields "parameter" with
          | array items => rw [← split, parameters, Value.itemsOrNone]
          | _ =>
            rw [parameters] at split
            exact absurd split.symm (by simp [Value.itemsOrNone])
        exact ⟨fields, before, parameter, after, rfl,
          Value.lookup?_of_fieldOf (Value.ne_null_of_isTruthy present) rfl, present,
          Value.lookup?_of_fieldOf (by simp) listed, gives, first⟩
      · cases binds
    | _ => cases binds
  · rintro ⟨fields, before, parameter, after, rfl, named, present, listed, gives, first⟩
    have found : (before ++ parameter :: after).findSome? pathOfParameter? = some path :=
      findSome?_pathOfParameter?.2 ⟨before, parameter, after, rfl, gives, first⟩
    rw [ofRecord?, Value.fieldOf_of_lookup? named, present, Value.fieldOf_of_lookup? listed,
      Value.itemsOrNone, found]
    rfl

end Bindings

end Records

section Names

/-- The names of records are texts wherever they count as present. -/
def NamesTexts (records : List Value) : Prop :=
  ∀ fields : Fields, .object fields ∈ records → ∀ name : Value, lookup? fields "name" = some name →
    name.isTruthy = true → ∃ text, name = .string text

/-- The name and the path that a record binds, if the name is a text. -/
def namedPath? (record : Value) : Option (Text × Value) :=
  match Bindings.ofRecord? record with
  | some (.string name, path) => some (name, path)
  | _ => none

/-- The paths of the texts that records bind. -/
def pathsOf (records : List Value) : OrderedMap Text Value :=
  ofPairs (records.filterMap namedPath?)

variable {records : List Value} {name other : Text} {path : Value}

theorem namedPath?_eq_some {record : Value} :
    namedPath? record = some (name, path) ↔ Binds record (.string name) path := by
  rw [← Bindings.ofRecord?_eq_some, namedPath?]
  constructor
  · intro named
    split at named
    · cases named
      assumption
    · cases named
  · intro binds
    rw [binds]

theorem NamesTexts.of_subset {fewer : List Value} (named : NamesTexts records)
    (subset : ∀ record ∈ fewer, record ∈ records) : NamesTexts fewer :=
  fun fields member => named fields (subset _ member)

namespace Bindings

/-- Bindings of texts to paths. -/
def ofNames (paths : OrderedMap Text Value) : Bindings :=
  paths.map fun entry => (.string entry.1, entry.2)

/-- Where names are texts, records bind what they bind texts to. -/
theorem bound_of_namesTexts (named : NamesTexts records) :
    bound records = ofNames (records.filterMap namedPath?) := by
  rw [bound, ofNames, List.map_filterMap]
  refine List.filterMap_congr fun record member => ?_
  cases binds : ofRecord? record with
  | none => simp [namedPath?, binds]
  | some entry =>
    obtain ⟨fields, _, _, _, rfl, isName, present, _⟩ := ofRecord?_eq_some.1 binds
    obtain ⟨text, is⟩ := named fields member _ isName present
    obtain ⟨name, path⟩ := entry
    dsimp only at is
    subst is
    simp [namedPath?, binds]

theorem ofRecords_of_namesTexts (named : NamesTexts records) :
    ofRecords records = .ok (ofNames (pathsOf records)) := by
  have keys : (bound records).find? (fun entry => !entry.1.isKey) = none := by
    rw [bound_of_namesTexts named, List.find?_eq_none]
    intro entry member
    obtain ⟨_, _, rfl⟩ := List.mem_map.mp member
    exact Bool.false_ne_true
  have built := ofPairs_map Value.string_beq id (records.filterMap namedPath?)
  rw [ofRecords_eq, keys, bound_of_namesTexts named]
  exact congrArg Except.ok built

end Bindings

/-- One more record puts what it binds. -/
theorem pathsOf_concat (records : List Value) (record : Value) :
    pathsOf (records ++ [record]) = update (pathsOf records) (namedPath? record).toList := by
  rw [pathsOf, List.filterMap_append, ofPairs, update, List.foldl_append, pathsOf, ofPairs]
  cases named : namedPath? record <;> simp [named, update]

theorem pathsOf_append (records more : List Value) :
    pathsOf (records ++ more) = update (pathsOf records) (pathsOf more) := by
  rw [pathsOf, List.filterMap_append, ofPairs_append, pathsOf, pathsOf]

end Names

section Order

variable {records : List Value} {name other : Text} {path : Value}

/-- The last of the records that bind a name binds it to a path. -/
def LastBinds (records : List Value) (name : Text) (path : Value) : Prop :=
  ∃ before record after, records = before ++ record :: after ∧ Binds record (.string name) path ∧
    ∀ later ∈ after, ∀ other, ¬Binds later (.string name) other

/-- Some record binds a name before any record binds another. -/
def BoundBefore (records : List Value) (name other : Text) : Prop :=
  ∃ front back, records = front ++ back ∧
    (∃ record ∈ front, ∃ path, Binds record (.string name) path) ∧
    ∀ record ∈ front, ∀ path, ¬Binds record (.string other) path

theorem lastBinds_concat {record : Value} : LastBinds (records ++ [record]) name path ↔
    Binds record (.string name) path ∨
      (∀ other, ¬Binds record (.string name) other) ∧ LastBinds records name path := by
  constructor
  · rintro ⟨before, found, after, split, binds, none⟩
    rcases List.eq_nil_or_concat after with rfl | ⟨rest, last, rfl⟩
    · obtain ⟨_, same⟩ := List.append_inj' split rfl
      cases same
      exact .inl binds
    · rw [List.concat_eq_append, ← List.cons_append, ← List.append_assoc] at split
      obtain ⟨same, final⟩ := List.append_inj' split rfl
      cases final
      rw [List.concat_eq_append] at none
      refine .inr ⟨none record (List.mem_append_right _ List.mem_cons_self), before, found, rest,
        same, binds, fun later member => none later (List.mem_append_left _ member)⟩
  · rintro (binds | ⟨free, before, found, after, rfl, binds, none⟩)
    · exact ⟨records, record, [], rfl, binds, List.forall_mem_nil _⟩
    · refine ⟨before, found, after ++ [record], by simp, binds, ?_⟩
      exact List.forall_mem_append.mpr ⟨none, List.forall_mem_singleton.mpr free⟩

/-- A name has the path of the last record that binds it. -/
theorem lookup?_pathsOf : lookup? (pathsOf records) name = some path ↔
    LastBinds records name path := by
  induction records using List.reverseRecOn with
  | nil =>
    refine iff_of_false nofun ?_
    rintro ⟨before, _, _, split, _⟩
    cases before <;> cases split
  | append_singleton front record ih =>
    rw [pathsOf_concat, lastBinds_concat, ← ih, ← namedPath?_eq_some]
    simp only [← namedPath?_eq_some]
    cases named : namedPath? record with
    | none => simp [update_nil]
    | some entry =>
      obtain ⟨bound, given⟩ := entry
      rw [Option.toList_some, update_cons, update_nil]
      by_cases own : bound = name
      · subst own
        simp
      · simp [lookup?_put_of_ne _ _ own, own]

/-- The names that are bound are those that some record binds. -/
theorem mem_keys_pathsOf : name ∈ keys (pathsOf records) ↔
    ∃ record ∈ records, ∃ path, Binds record (.string name) path := by
  rw [pathsOf, mem_keys_ofPairs]
  simp only [keys, List.mem_map, List.mem_filterMap]
  constructor
  · rintro ⟨entry, ⟨record, member, named⟩, rfl⟩
    exact ⟨record, member, entry.2, namedPath?_eq_some.1 named⟩
  · rintro ⟨record, member, path, binds⟩
    exact ⟨(name, path), ⟨record, member, namedPath?_eq_some.2 binds⟩, rfl⟩

theorem BoundBefore.append (before : BoundBefore records name other) (more : List Value) :
    BoundBefore (records ++ more) name other := by
  obtain ⟨front, back, rfl, bound, free⟩ := before
  exact ⟨front, back ++ more, List.append_assoc _ _ _, bound, free⟩

/-- Names stand in the order in which they are bound first. -/
theorem keys_pathsOf_pairwise (records : List Value) :
    (keys (pathsOf records)).Pairwise (BoundBefore records) := by
  induction records using List.reverseRecOn with
  | nil => exact .nil
  | append_singleton front record ih =>
    have earlier : (keys (pathsOf front)).Pairwise (BoundBefore (front ++ [record])) :=
      ih.imp fun before => before.append [record]
    rw [pathsOf_concat]
    cases named : namedPath? record with
    | none => exact earlier
    | some entry =>
      rw [Option.toList_some, update_cons, update_nil, keys_put]
      split
      · exact earlier
      · -- A name that is new is bound by the last record and by none in front of it.
        rename_i fresh
        refine List.pairwise_append.mpr ⟨earlier, List.pairwise_singleton _ _, ?_⟩
        intro name member other isNew
        cases List.mem_singleton.mp isNew
        exact ⟨front, [record], rfl, mem_keys_pathsOf.1 member, fun earlier member path binds =>
          fresh (mem_keys_pathsOf.2 ⟨earlier, member, path, binds⟩)⟩

end Order

namespace Bindings

theorem ofRecords_of_not_binds {before after : List Value} {record : Value}
    (free : ∀ name path, ¬Binds record name path) :
    ofRecords (before ++ after) = ofRecords (before ++ record :: after) := by
  have none : ofRecord? record = none :=
    Option.eq_none_iff_forall_ne_some.mpr fun entry binds =>
      free entry.1 entry.2 (ofRecord?_eq_some.1 binds)
  have same : bound (before ++ record :: after) = bound (before ++ after) := by
    rw [bound, bound, List.filterMap_append, List.filterMap_append, List.filterMap_cons_none none]
  rw [ofRecords_eq, ofRecords_eq, same]

/-- By itself, a record is bound as it binds. -/
theorem ofDocument_single {record : Value} (named : NamesTexts [record]) {name : Text}
    {path : Value} : ofDocument (.array [record]) = .ok (ofNames [(name, path)]) ↔
      Binds record (.string name) path := by
  have alone : ofDocument (.array [record]) = .ok (ofNames (namedPath? record).toList) := by
    have listed := pathsOf_concat [] record
    rw [List.nil_append] at listed
    refine (ofRecords_of_namesTexts named).trans ?_
    rw [listed]
    cases namedPath? record <;> rfl
  rw [alone, ← namedPath?_eq_some]
  cases namedPath? record <;> simp [ofNames, Prod.ext_iff]

/-- A document in which the names of records are texts binds every name that some record binds,
once, to the path of the last record that binds it, and in the order in which they are bound first.
By itself, each record is bound as it binds; one that does not bind may be left out, and what more
records bind is laid over what is bound in front of them. -/
theorem ofDocument_lastBinding {document : Value} (named : NamesTexts document.itemsOrNone) :
    ∃ paths : OrderedMap Text Value,
      ofDocument document = .ok (ofNames paths) ∧
      Distinct paths ∧
      (∀ name path, lookup? paths name = some path ↔
        LastBinds document.itemsOrNone name path) ∧
      (keys paths).Pairwise (BoundBefore document.itemsOrNone) ∧
      (∀ record ∈ document.itemsOrNone, ∀ name path,
        ofDocument (.array [record]) = .ok (ofNames [(name, path)]) ↔
          Binds record (.string name) path) ∧
      (∀ before record after, document = .array (before ++ record :: after) →
        (∀ name path, ¬Binds record name path) →
          ofDocument (.array (before ++ after)) = ofDocument document) ∧
      ∀ records more, document = .array (records ++ more) → ∃ first second,
        ofDocument (.array records) = .ok (ofNames first) ∧
        ofDocument (.array more) = .ok (ofNames second) ∧
        paths = update first second := by
  refine ⟨pathsOf document.itemsOrNone, ofRecords_of_namesTexts named, distinct_ofPairs _,
    fun _ _ => lookup?_pathsOf, keys_pathsOf_pairwise _, ?_, ?_, ?_⟩
  · intro record member name path
    exact ofDocument_single (named.of_subset (List.forall_mem_singleton.mpr member))
  · rintro before record after rfl free
    exact ofRecords_of_not_binds free
  · rintro records more rfl
    have front : NamesTexts records := named.of_subset fun _ => List.mem_append_left more
    have back : NamesTexts more := named.of_subset fun _ => List.mem_append_right records
    exact ⟨pathsOf records, pathsOf more, ofRecords_of_namesTexts front,
      ofRecords_of_namesTexts back, pathsOf_append records more⟩

/-- A variable that is defined once more has the path of its second definition, and a record of it
that has no path counts for nothing. -/
theorem ofDocument_lastBinding_redefined :
    let first := Compilation.variableRecord (.string "Revenue") "total"
    let other := Compilation.variableRecord (.string "Email") "user.email"
    let second := Compilation.variableRecord (.string "Revenue") "order.total"
    let bare : Value := .object [("name", .string "Revenue"), ("parameter", .array [.null])]
    let document : Value := .array [first, other, second, bare]
    NamesTexts document.itemsOrNone ∧
      ofDocument (.array [first, other, second]) = ofDocument document ∧ ∃ paths,
        ofDocument document = .ok (ofNames paths) ∧
        lookup? paths "Revenue" = some (.string "order.total") ∧
        lookup? paths "Email" = some (.string "user.email") := by
  intro first other second bare document
  have named : NamesTexts document.itemsOrNone := by
    intro fields member name bound present
    simp only [document, Value.itemsOrNone, first, other, second, bare, Compilation.variableRecord,
      List.mem_cons, Value.object.injEq, List.not_mem_nil, or_false] at member
    rcases member with rfl | rfl | rfl | rfl <;> exact ⟨_, (Option.some.inj bound).symm⟩
  have free : ∀ name path, ¬Binds bare name path := fun name path binds =>
    Option.some_ne_none (name, path) (ofRecord?_eq_some.mpr binds).symm
  have apart : ∀ path, ¬Binds second (.string "Email") path := by
    intro path binds
    obtain ⟨name, _⟩ := Prod.mk.inj (Option.some.inj (ofRecord?_eq_some.mpr binds))
    exact absurd (Value.string.inj name) (by decide)
  obtain ⟨paths, binds, _, last, _, _, bareless, _⟩ := ofDocument_lastBinding named
  refine ⟨named, bareless [first, other, second] bare [] rfl free, paths, binds, ?_, ?_⟩
  · exact (last _ _).mpr ⟨[first, other], second, [bare], rfl, ofRecord?_eq_some.mp rfl,
      List.forall_mem_singleton.mpr fun path => free _ path⟩
  · exact (last _ _).mpr ⟨[first], other, [second, bare], rfl, ofRecord?_eq_some.mp rfl,
      List.forall_mem_cons.mpr ⟨apart, List.forall_mem_singleton.mpr fun path => free _ path⟩⟩

end Bindings

end ConversionRelay
