import ConversionRelay.Proofs.Container.Coverage
import ConversionRelay.Proofs.Container.Rendering
/-!
Whether references lead to the bindings they name.

A reference is listed under its name without the blanks at its ends, but a record binds its name as
it stands. So a reference leads to the binding of the trimmed name, which is the one that it spells
only if no blanks stand at the ends of the name.

Main statement: a reference that spells a bound name is reported as bound to the path of that name
exactly if the trimmed name is bound to the same path (`Compilation.references_resolve`).
-/
namespace ConversionRelay

open OrderedMap Reference Text Value

section References

variable {name : Text}

/-- The reference that spells a name. -/
def Reference.spelled (name : Text) : Text :=
  openingBrace :: openingBrace :: (name ++ [closingBrace, closingBrace])

/-- A tag has a parameter of which a text is the value. -/
def HasParameter (tag : Fields) (text : Text) : Prop :=
  ∃ parameters parameter, fieldOf tag "parameter" = .array parameters ∧
    .object parameter ∈ parameters ∧ fieldOf parameter "value" = .string text

/-- A reference is listed under its trimmed name. -/
theorem Reference.names_spelled (named : trim name ≠ []) (unclosed : closingBrace ∉ name) :
    names (spelled name) = [trim name] := by
  have nonempty : name ≠ [] := by
    rintro rfl
    exact named rfl
  rw [names, spelled, captures_reference nonempty unclosed, List.map_cons,
    List.filter_cons_of_pos (by simpa using named)]
  rfl

theorem Reference.mem_namesInTags {tags : List Fields} {tag : Fields} {text : Text}
    (member : tag ∈ tags) (has : HasParameter tag text) (refers : name ∈ names text) :
    name ∈ namesInTags (tags.map .object) := by
  obtain ⟨parameters, parameter, is, among, value⟩ := has
  refine List.mem_flatMap.mpr ⟨.object tag, List.mem_map_of_mem member, ?_⟩
  rw [mem_namesInTag_iff]
  exact ⟨tag, parameters, .object parameter, _, rfl, is, among, .value parameter,
    0, text, value ▸ .whole, refers⟩

end References

section Reporting

variable {bindings : Bindings} {name : Text} {path : Value} {told : VariablePath}

theorem Coverage.Tells.bound_iff (tells : Tells bindings name told) :
    told = ⟨path, .bound⟩ ↔ lookup? bindings (.string name) = some path := by
  cases tells with
  | bound binds =>
    rw [binds]
    simp
  | suggested unbound _ => simp [unbound]
  | unmapped unbound _ => simp [unbound]

/-- A variable that tags refer to is found in the report. -/
theorem Compilation.Reports.exists_told {tags : List Value} {compiled : Compilation}
    (reports : Reports tags compiled) (refers : name ∈ namesInTags tags) :
    ∃ told, lookup? compiled.coverage name = some told ∧
      Coverage.Tells compiled.bindings name told := by
  have covered : name ∈ keys compiled.coverage := by
    rw [reports.covers, reports.refers]
    exact refers
  obtain ⟨told, found⟩ := Option.ne_none_iff_exists'.mp
    (fun none => lookup?_eq_none.mp none covered)
  exact ⟨told, found, reports.tells _ (mem_of_lookup? found)⟩

end Reporting

namespace Compilation

/-- A loaded export is compiled unless a name gets in the way. A reference that spells a bound name
is then listed under the trimmed name and reported as that name is. So it leads to the binding that
it spells if no blanks stand at the ends of the name, and otherwise only if the trimmed name happens
to be bound to the same path. -/
theorem references_resolve {files : FileTree} {source : ExportSource} {found : Export}
    (loads : (Export.load files source).outcome.1 = .ok found) (customer : Value) :
    let outcome := (ofSource files source customer).outcome.1
    ((∃ compiled, outcome = .ok compiled) ↔ found.Unobstructed) ∧
    ∀ compiled, outcome = .ok compiled →
      Bindings.ofRecords found.records = .ok compiled.bindings ∧ ∀ name path tag,
        lookup? compiled.bindings (.string name) = some path → trim name ≠ [] →
        closingBrace ∉ name → tag ∈ found.tags → HasParameter tag (spelled name) →
        names (spelled name) = [trim name] ∧ ∃ told,
          lookup? compiled.coverage (trim name) = some told ∧
          Coverage.Tells compiled.bindings (trim name) told ∧
          (told = ⟨path, .bound⟩ ↔
            lookup? compiled.bindings (.string (trim name)) = some path) ∧
          (trim name = name → told = ⟨path, .bound⟩) := by
  intro outcome
  have comes : ∀ compiled, outcome = .ok compiled ↔ result found customer = .ok compiled := by
    intro compiled
    rw [ofSource_eq_ok, loads]
    simp
  constructor
  · simp only [comes]
    constructor
    · rintro ⟨compiled, compiles⟩
      by_contra obstructed
      obtain ⟨fault, fails, _⟩ := result_of_obstructed obstructed customer
      cases compiles.symm.trans fails
    · intro free
      obtain ⟨signals, _, compiles⟩ := result_of_unobstructed free customer
      exact ⟨_, compiles⟩
  · intro compiled compiles
    obtain ⟨bindings, signals, isBound, _, rfl⟩ := result_eq_ok.mp ((comes compiled).mp compiles)
    refine ⟨isBound, fun name path tag binds named unclosed member has => ?_⟩
    have listed := names_spelled named unclosed
    have refers : trim name ∈ namesInTags (found.tags.map .object) :=
      mem_namesInTags member has (listed ▸ List.mem_singleton_self _)
    obtain ⟨told, reported, tells⟩ :=
      (reports_assembled isBound customer signals).exists_told refers
    refine ⟨listed, told, reported, tells, tells.bound_iff, fun tight => ?_⟩
    rw [tells.bound_iff, tight]
    exact binds

/-- A tag that refers to a name, and a record that binds the name. -/
def referringDocument (name : Text) : Fields :=
  let parameter : Value := .object [("value", .string (spelled name))]
  [("tag", .array [.object [("parameter", .array [parameter])]]),
    ("macro", .array [variableRecord (.string name) "total"])]

theorem referringDocument_refers (name : Text) :
    ∃ tag ∈ (Export.ofFields (referringDocument name)).tags, HasParameter tag (spelled name) :=
  ⟨_, List.mem_singleton_self _, _, _, rfl, List.mem_singleton_self _, rfl⟩

theorem load_referringDocument (name : Text) :
    (Export.load .empty (.document (.object (referringDocument name)))).outcome.1 =
      .ok (Export.ofFields (referringDocument name)) := rfl

theorem compiles_referringDocument {name : Text} (nonempty : name ≠ []) : ∃ compiled,
    (ofSource .empty (.document (.object (referringDocument name))) (.string "acme")).outcome.1 =
        .ok compiled ∧ compiled.bindings = [(.string name, .string "total")] ∧
      Reports ((Export.ofFields (referringDocument name)).tags.map .object) compiled := by
  obtain ⟨c, rest, rfl⟩ := List.exists_cons_of_ne_nil nonempty
  let found := Export.ofFields (referringDocument (c :: rest))
  have free : found.Unobstructed := ⟨List.forall_mem_singleton.mpr rfl, .inl rfl⟩
  obtain ⟨signals, _, compiles⟩ := result_of_unobstructed free (.string "acme")
  have binds : Bindings.ofRecords found.records = .ok found.bindings := rfl
  exact ⟨_, (document_result .empty _ _).trans compiles, rfl, reports_assembled binds _ signals⟩

/-- A name without blanks at its ends leads to its binding. -/
theorem references_resolve_revenue : ∃ compiled,
    (ofSource .empty (.document (.object (referringDocument "Revenue")))
      (.string "acme")).outcome.1 = .ok compiled ∧
    lookup? compiled.coverage "Revenue" = some ⟨.string "total", .bound⟩ := by
  have nonempty : Text.ofString "Revenue" ≠ [] := by decide
  obtain ⟨compiled, compiles, bindings, _⟩ := compiles_referringDocument nonempty
  have binds : lookup? compiled.bindings (.string "Revenue") = some (.string "total") := by
    rw [bindings]
    rfl
  obtain ⟨tag, member, has⟩ := referringDocument_refers "Revenue"
  obtain ⟨_, resolves⟩ := references_resolve (load_referringDocument "Revenue") (.string "acme")
  obtain ⟨_, told, reported, _, _, leads⟩ := (resolves compiled compiles).2 _ _ tag binds
    (by decide +kernel) (by decide +kernel) member has
  have tight : trim "Revenue" = "Revenue" := by decide +kernel
  rw [tight] at reported
  exact ⟨compiled, compiles, leads tight ▸ reported⟩

/-- A name with blanks at its ends is bound as it stands, but what refers to it is listed without
them and leads nowhere. -/
theorem references_lost :
    (∃ compiled, (ofSource .empty (.document (.object (referringDocument " Revenue ")))
        (.string "acme")).outcome.1 = .ok compiled ∧
      lookup? compiled.bindings (.string " Revenue ") = some (.string "total") ∧
      lookup? compiled.coverage "Revenue" = some ⟨.null, .unmapped⟩) ∧
    ¬ ∀ files source customer found compiled,
      (Export.load files source).outcome.1 = .ok found →
      (ofSource files source customer).outcome.1 = .ok compiled → ∀ name path tag,
        lookup? compiled.bindings (.string name) = some path → trim name ≠ [] →
        closingBrace ∉ name → tag ∈ found.tags → HasParameter tag (spelled name) →
        lookup? compiled.coverage (trim name) = some ⟨path, .bound⟩ := by
  have nonempty : Text.ofString " Revenue " ≠ [] := by decide
  have named : trim " Revenue " ≠ [] := by decide +kernel
  have unclosed : closingBrace ∉ Text.ofString " Revenue " := by decide +kernel
  have trimmed : trim " Revenue " = "Revenue" := by decide +kernel
  obtain ⟨compiled, compiles, bindings, reports⟩ := compiles_referringDocument nonempty
  have binds : lookup? compiled.bindings (.string " Revenue ") = some (.string "total") := by
    rw [bindings]
    rfl
  obtain ⟨tag, member, has⟩ := referringDocument_refers " Revenue "
  have listed := names_spelled named unclosed
  obtain ⟨told, reported, tells⟩ :=
    reports.exists_told (mem_namesInTags member has (listed ▸ List.mem_singleton_self _))
  rw [trimmed] at reported tells
  have lost : told = ⟨.null, .unmapped⟩ := by
    rw [bindings] at tells
    cases tells with
    | bound binds => cases binds
    | suggested _ suggests => cases suggests
    | unmapped _ _ => rfl
  rw [lost] at reported
  refine ⟨⟨compiled, compiles, binds, reported⟩, fun always => ?_⟩
  have bound := always _ _ _ _ compiled (load_referringDocument " Revenue ") compiles _ _ tag binds
    named unclosed member has
  rw [trimmed] at bound
  cases reported.symm.trans bound

end Compilation

end ConversionRelay
