import ConversionRelay.Proofs.Container.Binding
import ConversionRelay.Proofs.Container.Compilation
import ConversionRelay.Proofs.Container.Mentions
/-!
What a compilation reports about the variables that tags refer to.

The report is made of the names that stand in the tags and the bindings of the records. The list of
the variables that have to be mapped by hand, the table and the summary are taken from it, each in
its own way. They tell of the same variables, in the same order.

Main statement: each variable that tags refer to is reported once, as bound, suggested or unmapped,
and whatever is taken from the report agrees with it (`Compilation.coverage_reported`).
-/
namespace ConversionRelay

open OrderedMap Reference

namespace Coverage

/-- What is reported of a variable. A binding decides, whatever the name suggests. -/
inductive Tells (bindings : Bindings) (name : Text) : VariablePath → Prop
  | bound {path : Value} (binds : lookup? bindings (.string name) = some path) :
      Tells bindings name ⟨path, .bound⟩
  | suggested {path : Text} (unbound : lookup? bindings (.string name) = none)
      (suggests : NamePath.ofName? name = some path) :
      Tells bindings name ⟨.string path, .suggested⟩
  | unmapped (unbound : lookup? bindings (.string name) = none)
      (silent : NamePath.ofName? name = none) : Tells bindings name ⟨.null, .unmapped⟩

theorem tells_pathOf (bindings : Bindings) (name : Text) :
    Tells bindings name (pathOf bindings name) := by
  unfold pathOf
  split
  · exact .bound ‹_›
  · split
    · exact .suggested ‹_› ‹_›
    · exact .unmapped ‹_› ‹_›

/-- No binding is null, so a path is missing exactly where there is none to report. -/
theorem Tells.path_eq_null_iff {bindings : Bindings} {name : Text} {told : VariablePath}
    (present : ∀ path ∈ values bindings, path.isTruthy = true) (tells : Tells bindings name told) :
    told.path = .null ↔ told.source = .unmapped := by
  cases tells with
  | bound binds =>
    refine iff_of_false ?_ nofun
    rintro rfl
    cases present _ (mem_values_of_lookup? binds)
  | suggested _ _ => exact iff_of_false nofun nofun
  | unmapped _ _ => exact iff_of_true rfl rfl

theorem tells_of_mem_ofVariables {names : List Text} {bindings : Bindings}
    {entry : Text × VariablePath} (member : entry ∈ ofVariables names bindings) :
    Tells bindings entry.1 entry.2 := by
  obtain ⟨name, _, rfl⟩ := List.mem_map.mp member
  exact tells_pathOf bindings name

section Views

variable {coverage : Coverage} (ascending : Ascending (keys coverage))

include ascending

/-- The variables without a path are listed as they stand in the report. -/
theorem unmapped_eq : coverage.unmapped =
    keys (coverage.filter fun entry => entry.2.source == .unmapped) := by
  have sublist : (keys (coverage.filter fun entry => entry.2.source == .unmapped)).Sublist
      (keys coverage) := List.filter_sublist.map Prod.fst
  exact Ascending.mergeSort_eq_self (ascending.sublist sublist)

theorem ascending_unmapped : Ascending coverage.unmapped := by
  rw [unmapped_eq ascending]
  exact ascending.sublist (List.filter_sublist.map Prod.fst)

theorem mem_unmapped_iff {name : Text} : name ∈ coverage.unmapped ↔
    ∃ entry ∈ coverage, entry.1 = name ∧ entry.2.source = .unmapped := by
  rw [unmapped_eq ascending, keys, List.mem_map]
  constructor
  · rintro ⟨entry, member, rfl⟩
    obtain ⟨member, isUnmapped⟩ := List.mem_filter.mp member
    exact ⟨entry, member, rfl, by simpa using isUnmapped⟩
  · rintro ⟨entry, member, rfl, isUnmapped⟩
    exact ⟨entry, List.mem_filter.mpr ⟨member, by simpa using isUnmapped⟩, rfl⟩

/-- The rows of the table stand in the order of the report. -/
theorem rows_eq : coverage.rows =
    (coverage.zip (Column.unify (coverage.map fun entry => entry.2.path))).map
      fun row => ⟨row.1.1, row.2, row.1.2.source⟩ := by
  have ordered : coverage.mergeSort (fun a b => Text.le a.1 b.1) = coverage :=
    List.mergeSort_of_pairwise ((List.pairwise_map.mp ascending).imp And.left)
  rw [rows, ordered]

/-- What the rows tell that is not a path is what the entries tell. -/
theorem rows_map {α : Type} (told : Text → PathSource → α) :
    coverage.rows.map (fun row => told row.name row.source) =
      coverage.map fun entry => told entry.1 entry.2.source := by
  let paths := Column.unify (coverage.map fun entry => entry.2.path)
  have entries : (coverage.zip paths).map Prod.fst = coverage := List.map_fst_zip (by simp [paths])
  rw [rows_eq ascending, List.map_map]
  conv_rhs => rw [← entries, List.map_map]
  rfl

theorem rows_paths : coverage.rows.map Row.path =
    Column.unify (coverage.map fun entry => entry.2.path) := by
  rw [rows_eq ascending, List.map_map]
  exact List.map_snd_zip (by simp)

end Views

end Coverage

theorem Bindings.isTruthy_of_ofRecords {records : List Value} {bindings : Bindings}
    (binds : ofRecords records = .ok bindings) : ∀ path ∈ values bindings, path.isTruthy = true := by
  intro path member
  rw [eq_of_ofRecords binds] at member
  obtain ⟨entry, bound, rfl⟩ := List.mem_map.mp (values_ofPairs_subset member)
  obtain ⟨record, _, binds⟩ := List.mem_filterMap.mp bound
  exact isTruthy_of_ofRecord? binds

namespace Compilation

/-- What a compilation reports of the variables that tags refer to, and that all that is taken from
the report agrees with it. -/
structure Reports (tags : List Value) (compiled : Compilation) : Prop where
  refers : ∀ name, name ∈ compiled.referenced ↔ name ∈ namesInTags tags
  ascending : Ascending compiled.referenced
  covers : keys compiled.coverage = compiled.referenced
  tells : ∀ entry ∈ compiled.coverage, Coverage.Tells compiled.bindings entry.1 entry.2
  missing : ∀ entry ∈ compiled.coverage,
    entry.2.path = .null ↔ entry.2.source = .unmapped
  unmapped : ∀ name, name ∈ compiled.unmapped ↔
    ∃ entry ∈ compiled.coverage, entry.1 = name ∧ entry.2.source = .unmapped
  unmappedAscending : Ascending compiled.unmapped
  /-- The table has a row for each variable. Its column of paths is shown in one representation. -/
  rowNames : compiled.coverage.rows.map Coverage.Row.name = compiled.referenced
  rowSources : compiled.coverage.rows.map Coverage.Row.source =
    compiled.coverage.map fun entry => entry.2.source
  rowPaths : compiled.coverage.rows.map Coverage.Row.path =
    Column.unify (compiled.coverage.map fun entry => entry.2.path)
  summaryCustomer : lookup? compiled.summary "customer_id" = some compiled.config.customerId
  summaryFormat : lookup? compiled.summary "export_format" = some (.string compiled.format.name)
  summaryReferenced : lookup? compiled.summary "referenced_variables" =
    some (.int compiled.coverage.length)
  summaryBindings : lookup? compiled.summary "macro_definitions" =
    some (.int (keys compiled.bindings).length)
  summaryEvents : lookup? compiled.summary "events" = some (.array compiled.config.eventNames)
  summaryUnmapped : lookup? compiled.summary "unmapped_variables" =
    some (.array (compiled.unmapped.map .string))

/-- A compilation reports exactly what the tags refer to and the records bind. -/
theorem reports_assembled {found : Export} {bindings : Bindings}
    (binds : Bindings.ofRecords found.records = .ok bindings) (customer : Value)
    (signals : Signals) :
    Reports (found.tags.map .object) (assembled found customer bindings signals) := by
  let compiled := assembled found customer bindings signals
  change Reports (found.tags.map .object) compiled
  have ascending : Ascending compiled.referenced := ascending_distinct _
  have covers : keys compiled.coverage = compiled.referenced :=
    (Coverage.keys_ofVariables _ _).trans (distinct_congr fun _ => mem_distinct)
  have ordered : Ascending (keys compiled.coverage) := covers ▸ ascending
  have tells : ∀ entry ∈ compiled.coverage, Coverage.Tells bindings entry.1 entry.2 :=
    fun _ => Coverage.tells_of_mem_ofVariables
  have counted : compiled.coverage.length = compiled.referenced.length := by
    rw [← covers, keys, List.length_map]
  exact {
    refers := fun _ => mem_distinct
    ascending := ascending
    covers := covers
    tells := tells
    missing := fun entry member =>
      (tells entry member).path_eq_null_iff (Bindings.isTruthy_of_ofRecords binds)
    unmapped := fun _ => Coverage.mem_unmapped_iff ordered
    unmappedAscending := Coverage.ascending_unmapped ordered
    rowNames := (Coverage.rows_map ordered fun name _ => name).trans covers
    rowSources := Coverage.rows_map ordered fun _ source => source
    rowPaths := Coverage.rows_paths ordered
    summaryCustomer := rfl
    summaryFormat := rfl
    summaryReferenced := by
      rw [counted]
      rfl
    summaryBindings := by
      rw [keys, List.length_map]
      rfl
    summaryEvents := rfl
    summaryUnmapped := rfl }

/-- Each variable that the tags of an export refer to is reported once. -/
theorem coverage_reported {files : FileTree} {source : ExportSource} {customer : Value}
    {compiled : Compilation}
    (compiles : (ofSource files source customer).outcome.1 = .ok compiled) :
    ∃ found, (Export.load files source).outcome.1 = .ok found ∧
      Bindings.ofRecords found.records = .ok compiled.bindings ∧
      Reports (found.tags.map .object) compiled := by
  obtain ⟨found, loads, compiles⟩ := ofSource_eq_ok.mp compiles
  obtain ⟨bindings, signals, binds, _, rfl⟩ := result_eq_ok.mp compiles
  exact ⟨found, loads, binds, reports_assembled binds customer signals⟩

/-- A variable without a path, one that is bound although its name suggests another path, and one
whose path is suggested by its name. -/
theorem coverage_reported_three :
    let parameter : Value := .object [("value", .string
      "\x7b\x7bPage Path\x7d\x7d\x7b\x7becommerceTotal\x7d\x7d\x7b\x7buserId\x7d\x7d")]
    let tag : Fields := [("parameter", .array [parameter])]
    let document : Fields := [("tag", .array [.object tag]),
      ("macro", .array [variableRecord (.string "ecommerceTotal") "order.value"])]
    let names : List Text :=
      [Text.ofString "Page Path", Text.ofString "ecommerceTotal", Text.ofString "userId"]
    ∃ compiled,
      (ofSource .empty (.document (.object document)) (.string "acme")).outcome.1 = .ok compiled ∧
      Reports [.object tag] compiled ∧ compiled.referenced = names ∧
      (compiled.coverage.map fun entry => entry.2.source) = [.unmapped, .bound, .suggested] ∧
      compiled.unmapped = [Text.ofString "Page Path"] := by
  intro parameter tag document names
  let found := Export.ofFields document
  have free : found.Unobstructed := ⟨List.forall_mem_singleton.mpr rfl, .inl rfl⟩
  obtain ⟨signals, _, compiles⟩ := result_of_unobstructed free (.string "acme")
  have outcome := (document_result .empty document (.string "acme")).trans compiles
  obtain ⟨_, loads, _, reports⟩ := coverage_reported outcome
  cases loads
  have ascending : Ascending names := by decide +kernel
  have referenced : variablesOfAll [.object tag] = names :=
    (congrArg distinct (by decide +kernel)).trans ascending.distinct_eq_self
  let coverage := Coverage.ofVariables (variablesOfAll [.object tag]) found.bindings
  have covered : coverage = names.map fun name => (name, Coverage.pathOf found.bindings name) := by
    rw [show coverage = Coverage.ofVariables names found.bindings from referenced ▸ rfl,
      Coverage.ofVariables, ascending.distinct_eq_self]
  have sources : (coverage.map fun entry => entry.2.source) = [.unmapped, .bound, .suggested] := by
    rw [covered]
    decide +kernel
  have unmapped : coverage.unmapped = [Text.ofString "Page Path"] := by
    have ordered : Ascending (keys coverage) := reports.covers ▸ reports.ascending
    rw [Coverage.unmapped_eq ordered, covered]
    decide +kernel
  exact ⟨_, outcome, reports, referenced, sources, unmapped⟩

end Compilation

end ConversionRelay
