import ConversionRelay.Container.Analysis
import ConversionRelay.Proofs.Container.Compilation
import Mathlib.Logic.Relation
/-!
One export in several shapes.

The same export may be held under a key of another object, keep its variables in the older or in the
newer of two lists, and come as a document, as a loaded export or as a text. Where it stands shows
in three fields of what is loaded, and of these neither compiling nor analysing looks at more than
the format, which a compilation carries along.

Main statement: exports of different shapes are loaded as the same but for these fields, and compile
and are analysed alike (`Export.shapes_agree`). A text is no shape of a document in which two halves
make up a character, since it spells them like that character (`Export.shapes_differ`).
-/
namespace ConversionRelay

open OrderedMap Json

section Shapes

namespace Export

variable {body document listed : Fields} {records : List Value}

/-- The fields of an object that does not hold an export under a key. -/
def Bare (body : Fields) : Prop := ∀ inner, Value.fieldOf body wrapperKey ≠ .object inner

/-- Objects of which the first keeps variables in the newer list alone, and the second has them in
the older one. What the second keeps in the newer list does not matter. -/
structure Relisted (body listed : Fields) (records : List Value) : Prop where
  newer : Value.fieldOf body "variable" = .array records
  notOlder : ∀ items, Value.fieldOf body "macro" ≠ .array items
  older : Value.fieldOf listed "macro" = .array records
  others : ∀ key : Text, key ≠ "macro" → key ≠ "variable" →
    Value.fieldOf listed key = Value.fieldOf body key

/-- Moving the newer list under the key of the older one. -/
theorem relisted_of_moved (newer : Value.fieldOf body "variable" = .array records)
    (notOlder : ∀ items, Value.fieldOf body "macro" ≠ .array items) :
    Relisted body (put (erase body "variable") "macro" (.array records)) records := by
  refine ⟨newer, notOlder, ?_, fun key notMacro notVariable => ?_⟩
  · rw [Value.fieldOf, lookup?_put_self]
    rfl
  · rw [Value.fieldOf, lookup?_put_of_ne _ _ (Ne.symm notMacro),
      lookup?_erase_of_ne _ (Ne.symm notVariable)]
    rfl

theorem ofFields_bare (bare : Bare body) : ofFields body = ofBody false body := by
  unfold ofFields
  split
  · rename_i inner holds
    exact absurd holds (bare inner)
  · rfl

theorem recordsIn_newer (newer : Value.fieldOf body "variable" = .array records)
    (notOlder : ∀ items, Value.fieldOf body "macro" ≠ .array items) :
    recordsIn body = (.newerVariables, records) := by
  rw [recordsIn, newer]
  split
  · rename_i items older
    exact absurd older (notOlder items)
  · rename_i items is _
    cases is
    rfl
  · rename_i none
    exact absurd rfl (none records)

theorem recordsIn_older (older : Value.fieldOf listed "macro" = .array records) :
    recordsIn listed = (.olderVariables, records) := by
  rw [recordsIn, older]

/-- What a list of variables is called shows in the format and in the whole of an export only. -/
theorem ofFields_relisted (bare : Bare body) (relisted : Relisted body listed records) :
    (ofFields body).format = .newerVariables ∧
      ofFields listed = { ofFields body with format := .olderVariables, raw := listed } := by
  have bare' : Bare listed := by
    intro inner
    rw [relisted.others _ (by decide) (by decide)]
    exact bare inner
  have newer := recordsIn_newer relisted.newer relisted.notOlder
  have older := recordsIn_older relisted.older
  have tags := relisted.others "tag" (by decide) (by decide)
  have triggers := relisted.others "trigger" (by decide) (by decide)
  have container := relisted.others "container" (by decide) (by decide)
  rw [ofFields_bare bare, ofFields_bare bare']
  constructor
  · rw [ofBody, newer]
  · rw [ofBody, ofBody, newer, older, tags, triggers, container]

end Export

end Shapes

section Results

namespace Compilation

/-- A compilation in another format. -/
def reformatted (format : ExportFormat) (compiled : Compilation) : Compilation :=
  { compiled with format }

/-- Compiling looks at the format of an export only to carry it along, and neither at the whole of
it nor at its wrapping. -/
theorem ofExport_reshaped (found : Export) (format : ExportFormat) (wrapped : Bool) (raw : Fields)
    (customer : Value) (lines : List LogLine) :
    (ofExport { found with format, wrapped, raw } customer).outcomeBehind lines =
      (((ofExport found customer).outcomeBehind lines).1.map (reformatted format),
        ((ofExport found customer).outcomeBehind lines).2) := by
  rw [ofExport, ofExport]
  cases Bindings.ofRecords found.records with
  | error fault => rfl
  | ok bindings =>
    have bound : (Logged.ofExcept (.ok bindings)).outcomeBehind lines = (.ok bindings, lines) := rfl
    rw [Logged.outcomeBehind_bind_ok bound, Logged.outcomeBehind_bind_ok bound]
    simp only [CustomerConfig.generate]
    cases Signals.ofBindings bindings <;> rfl

end Compilation

/-- Two sources lead to the same compilations but for the format, to the same analyses, and to the
same failures and lines of the log. -/
structure SameResults (files : FileTree) (customer : Value) (source other : ExportSource) :
    Prop where
  compiled :
    (Compilation.ofSource files source customer).outcome.1.map (·.reformatted .noVariables) =
      (Compilation.ofSource files other customer).outcome.1.map (·.reformatted .noVariables)
  logged : (Compilation.ofSource files source customer).outcome.2 =
    (Compilation.ofSource files other customer).outcome.2
  analysed : (Analysis.ofSource files source).outcome = (Analysis.ofSource files other).outcome

variable {files : FileTree} {customer : Value} {source other third : ExportSource}

namespace SameResults

theorem refl : SameResults files customer source source := ⟨rfl, rfl, rfl⟩

theorem symm (same : SameResults files customer source other) :
    SameResults files customer other source :=
  ⟨same.compiled.symm, same.logged.symm, same.analysed.symm⟩

theorem trans (same : SameResults files customer source other)
    (same' : SameResults files customer other third) : SameResults files customer source third :=
  ⟨same.compiled.trans same'.compiled, same.logged.trans same'.logged,
    same.analysed.trans same'.analysed⟩

/-- Exports that differ in nothing but their shape lead to the same results. -/
theorem of_reshaped {found : Export} (format : ExportFormat) (wrapped : Bool) (raw : Fields)
    (loads : Export.load files source = pure found)
    (loads' : Export.load files other = pure { found with format, wrapped, raw }) :
    SameResults files customer source other := by
  have reshaped := Compilation.ofExport_reshaped found format wrapped raw customer []
  have compiles : (Compilation.ofSource files source customer).outcome =
      (Compilation.ofExport found customer).outcomeBehind [] := by
    rw [Compilation.ofSource, loads, pure_bind]
    rfl
  have compiles' : (Compilation.ofSource files other customer).outcome =
      (Compilation.ofExport { found with format, wrapped, raw } customer).outcomeBehind [] := by
    rw [Compilation.ofSource, loads', pure_bind]
    rfl
  refine ⟨?_, ?_, ?_⟩
  · rw [compiles, compiles', reshaped]
    cases ((Compilation.ofExport found customer).outcomeBehind []).1 <;> rfl
  · rw [compiles, compiles', reshaped]
  · rw [Analysis.ofSource, Analysis.ofSource, loads, loads', pure_bind, pure_bind]
    rfl

end SameResults

/-- A compilation is in the format of the export that it is of. -/
theorem Compilation.format_of_outcome {compiled : Compilation}
    (compiles : (ofSource files source customer).outcome.1 = .ok compiled) :
    ∃ found, (Export.load files source).outcome.1 = .ok found ∧ compiled.format = found.format := by
  have loads : (Export.load files source).outcomeBehind [] =
      ((Export.load files source).outcome.1, (Export.load files source).outcome.2) := rfl
  obtain ⟨lines, runs⟩ := outcome_of_load loads customer
  rw [runs] at compiles
  obtain ⟨found, loads, compiles⟩ := bind_eq_ok compiles
  refine ⟨found, loads, ?_⟩
  unfold result at compiles
  split at compiles
  · cases compiles
  · rename_i bindings _
    cases finds : Signals.ofBindings bindings with
    | error fault =>
      rw [finds] at compiles
      cases compiles
    | ok signals =>
      rw [finds] at compiles
      cases compiles
      rfl

end Results

section Sources

namespace Export

/-- Two sources of which the second gives the export of the first another shape. -/
inductive Reshapes : ExportSource → ExportSource → Prop
  | wrapped {body document : Fields} (bare : Bare body)
      (holds : Value.fieldOf document wrapperKey = .object body) :
      Reshapes (.document (.object body)) (.document (.object document))
  | relisted {body listed : Fields} {records : List Value} (bare : Bare body)
      (relisted : Relisted body listed records) :
      Reshapes (.document (.object body)) (.document (.object listed))
  | loaded (document : Fields) :
      Reshapes (.document (.object document)) (.loaded (ofFields document))
  | written {document : Fields} {text : Text} (reads : parse text = .ok (.object document)) :
      Reshapes (.document (.object document)) (.text text)

/-- A text that is read as an object is loaded as the export of that object. -/
theorem load_text_of_parse (files : FileTree) {document : Fields} {text : Text}
    (reads : parse text = .ok (.object document)) :
    load files (.text text) = pure (ofFields document) := by
  rw [load, ofText, reads]
  rfl

/-- Reshaping an export changes no result. -/
theorem Reshapes.sameResults {source other : ExportSource} (reshapes : Reshapes source other)
    (files : FileTree) (customer : Value) : SameResults files customer source other := by
  cases reshapes with
  | @wrapped body document bare holds =>
    refine .of_reshaped (ofFields body).format true (ofFields body).raw rfl ?_
    rw [load, ofFields_wrapped holds bare]
  | @relisted body listed records bare relisted =>
    refine .of_reshaped .olderVariables (ofFields body).wrapped listed rfl ?_
    rw [load, (ofFields_relisted bare relisted).2]
  | loaded document => exact .of_reshaped _ _ _ rfl rfl
  | written reads => exact .of_reshaped _ _ _ rfl (load_text_of_parse files reads)

/-- However often an export is reshaped, the results stay the same. -/
theorem sameResults_of_eqvGen {source other : ExportSource}
    (reshaped : Relation.EqvGen Reshapes source other) (files : FileTree) (customer : Value) :
    SameResults files customer source other := by
  induction reshaped with
  | rel _ _ reshapes => exact reshapes.sameResults files customer
  | refl _ => exact .refl
  | symm _ _ _ same => exact same.symm
  | trans _ _ _ _ _ same same' => exact same.trans same'

/-- An export that is held under a key differs from the one that holds it in the mark of the
wrapping. Moving its newer list under the key of the older one changes its format and the whole of
it. A document, the export that it is loaded as, and any text that is read as it are loaded alike,
and within the limits of the reader its own text is such a text unless two halves make up a
character. However exports are reshaped in these ways, compiling and analysing them come to the same
results but for the format, and a compilation is in the format of its export. -/
theorem shapes_agree :
    (∀ {body document : Fields}, Bare body → Value.fieldOf document wrapperKey = .object body →
      (ofFields body).wrapped = false ∧
        ofFields document = { ofFields body with wrapped := true }) ∧
    (∀ {body : Fields} {records : List Value}, Bare body →
      Value.fieldOf body "variable" = .array records →
      (∀ items, Value.fieldOf body "macro" ≠ .array items) →
      let moved := put (erase body "variable") "macro" (.array records)
      (ofFields body).format = .newerVariables ∧
        ofFields moved = { ofFields body with format := .olderVariables, raw := moved }) ∧
    (∀ (files : FileTree) (document : Fields),
      (load files (.document (.object document))).outcome = (.ok (ofFields document), []) ∧
      (load files (.loaded (ofFields document))).outcome = (.ok (ofFields document), []) ∧
      ∀ text, parse text = .ok (.object document) →
        (load files (.text text)).outcome = (.ok (ofFields document), [])) ∧
    (∀ {document : Fields} {layout : Layout}, layout.sorted = false → layout.escaped = true →
      Document Limits.standard Limits.standard.nesting (.object document) →
      HalvesApart (.object document) →
      parse (print layout (.object document)) = .ok (.object document)) ∧
    (∀ (files : FileTree) (customer : Value) {source other : ExportSource},
      Relation.EqvGen Reshapes source other → SameResults files customer source other) ∧
    ∀ {files : FileTree} {customer : Value} {source : ExportSource} {compiled : Compilation},
      (Compilation.ofSource files source customer).outcome.1 = .ok compiled →
      ∃ found, (load files source).outcome.1 = .ok found ∧ compiled.format = found.format := by
  refine ⟨?_, ?_, ?_, ?_, ?_, Compilation.format_of_outcome⟩
  · intro body document bare holds
    refine ⟨?_, ofFields_wrapped holds bare⟩
    rw [ofFields_bare bare, ofBody]
  · intro body records bare newer notOlder
    exact ofFields_relisted bare (relisted_of_moved newer notOlder)
  · intro files document
    refine ⟨rfl, rfl, fun text reads => ?_⟩
    rw [load_text_of_parse files reads]
    rfl
  · intro document layout unsorted escaped readable apart
    rw [parse_print unsorted escaped readable.legible, readable.reread_eq_self apart]
  · intro files customer source other reshaped
    exact sameResults_of_eqvGen reshaped files customer

/-- The record of a variable is a document of three collections. -/
theorem document_variableRecord {limits : Limits} (room : Nat) (name path : Text) :
    Document limits (room + 3) (Compilation.variableRecord (.string name) path) := by
  have outer : (["name", "parameter"] : List Text).Nodup := by decide
  have inner : (["key", "value"] : List Text).Nodup := by decide
  refine .object (room + 2) _ outer (List.forall_mem_cons.mpr
    ⟨.string _ _, List.forall_mem_singleton.mpr (.array (room + 1) _ ?_)⟩)
  refine List.forall_mem_singleton.mpr (.object room _ inner ?_)
  exact List.forall_mem_cons.mpr ⟨.string _ _, List.forall_mem_singleton.mpr (.string _ _)⟩

theorem halvesApart_recordWords :
    Text.HalvesApart "name" ∧ Text.HalvesApart "parameter" ∧ Text.HalvesApart "key" ∧
      Text.HalvesApart "value" ∧ Text.HalvesApart Bindings.pathParameter := by
  decide

theorem halvesApart_variableRecord {name path : Text} (apart : name.HalvesApart)
    (apart' : path.HalvesApart) :
    HalvesApart (Compilation.variableRecord (.string name) path) := by
  obtain ⟨isName, isParameter, isKey, isValue, isPath⟩ := halvesApart_recordWords
  have parameter : HalvesApart (.object
      [("key", .string Bindings.pathParameter), ("value", .string path)]) :=
    .object _ (List.forall_mem_cons.mpr ⟨isKey, List.forall_mem_singleton.mpr isValue⟩)
      (List.forall_mem_cons.mpr
        ⟨.string _ isPath, List.forall_mem_singleton.mpr (.string _ apart')⟩)
  refine .object _ (List.forall_mem_cons.mpr ⟨isName, List.forall_mem_singleton.mpr isParameter⟩)
    (List.forall_mem_cons.mpr ⟨.string _ apart, List.forall_mem_singleton.mpr (.array _ ?_)⟩)
  exact List.forall_mem_singleton.mpr parameter

theorem reread_variableRecord (name path : Text) :
    reread (Compilation.variableRecord (.string name) path) =
      Compilation.variableRecord (.string (Text.paired name)) (Text.paired path) := by
  obtain ⟨isName, isParameter, isKey, isValue, isPath⟩ := halvesApart_recordWords
  simp only [Compilation.variableRecord, reread, rereadItems, rereadFields, isName.paired_eq_self,
    isParameter.paired_eq_self, isKey.paired_eq_self, isValue.paired_eq_self,
    isPath.paired_eq_self]
  rfl

theorem reread_exportOf (records : List Value) :
    reread (Compilation.exportOf records) = Compilation.exportOf (records.map reread) := by
  have own : Text.HalvesApart "macro" := by decide
  simp only [Compilation.exportOf, reread, rereadFields, own.paired_eq_self, rereadItems_eq_map]
  rfl

/-- A wrapped export with one newer variable, as a text, and the same export with an older variable,
as a loaded one, compile and are analysed alike. -/
theorem shapes_agree_revenue :
    let records := [Compilation.variableRecord (.string "Revenue") "total"]
    let body : Fields := [("variable", .array records)]
    let moved := put (erase body "variable") "macro" (.array records)
    let document : Fields := [("exportFormatVersion", .int 2), (wrapperKey, .object body)]
    let text := print .pretty (.object document)
    ofFields document = { ofFields body with wrapped := true } ∧
      ofFields moved = { ofFields body with format := .olderVariables, raw := moved } ∧
      parse text = .ok (.object document) ∧
      (load .empty (.text text)).outcome = (.ok (ofFields document), []) ∧
      SameResults .empty (.string "acme") (.text text) (.loaded (ofFields moved)) ∧
      ∃ compiled, (Compilation.ofSource .empty (.loaded (ofFields moved))
          (.string "acme")).outcome.1 = .ok compiled ∧
        compiled.bindings = [(.string "Revenue", .string "total")] ∧
        ∃ found, (load .empty (.loaded (ofFields moved))).outcome.1 = .ok found ∧
          compiled.format = found.format := by
  intro records body moved document text
  obtain ⟨wraps, moves, loads, reads, same, formats⟩ := shapes_agree
  have bare : Bare body := by
    intro inner holds
    cases holds
  have newer : Value.fieldOf body "variable" = .array records := rfl
  have notOlder : ∀ items, Value.fieldOf body "macro" ≠ .array items := by
    intro items older
    cases older
  have holds : Value.fieldOf document wrapperKey = .object body := rfl
  have readable : Document Limits.standard Limits.standard.nesting (.object document) := by
    refine .object 985 _ (by decide) (List.forall_mem_cons.mpr ⟨.int _ 2 (by decide), ?_⟩)
    refine List.forall_mem_singleton.mpr (.object 984 _ (by decide) ?_)
    refine List.forall_mem_singleton.mpr (.array 983 _ ?_)
    exact List.forall_mem_singleton.mpr (document_variableRecord 980 _ _)
  have apart : HalvesApart (.object document) := by
    refine .object _ (by decide) (List.forall_mem_cons.mpr ⟨.int 2, ?_⟩)
    refine List.forall_mem_singleton.mpr (.object _ (by decide) ?_)
    refine List.forall_mem_singleton.mpr (.array _ ?_)
    exact List.forall_mem_singleton.mpr (halvesApart_variableRecord (by decide) (by decide))
  have reads : parse text = .ok (.object document) := reads rfl rfl readable apart
  have steps : Relation.EqvGen Reshapes (.text text) (.loaded (ofFields moved)) := by
    refine .trans _ _ _ (.symm _ _ (.rel _ _ (.written reads))) ?_
    refine .trans _ _ _ (.symm _ _ (.rel _ _ (.wrapped bare holds))) ?_
    exact .trans _ _ _ (.rel _ _ (.relisted bare (relisted_of_moved newer notOlder)))
      (.rel _ _ (.loaded moved))
  have free : (ofFields moved).Unobstructed :=
    ⟨List.forall_mem_singleton.mpr rfl, .inl rfl⟩
  obtain ⟨signals, _, compiles⟩ := Compilation.result_of_unobstructed free (.string "acme")
  have comes := (Compilation.loaded_result .empty _ (.string "acme")).trans compiles
  exact ⟨(wraps bare holds).2, (moves bare newer notOlder).2, reads,
    (loads .empty document).2.2 text reads, same .empty (.string "acme") steps, _, comes, rfl,
    formats comes⟩

/-- Two records bind two variables if they have two names, and one if they have one. -/
theorem length_bindings_of_two {name other : Text} (named : name ≠ []) (named' : other ≠ []) :
    (resolved (Compilation.exportOf [Compilation.variableRecord (.string name) "x",
      Compilation.variableRecord (.string other) "y"])).bindings.length =
        if name = other then 1 else 2 := by
  have bound : (resolved (Compilation.exportOf [Compilation.variableRecord (.string name) "x",
      Compilation.variableRecord (.string other) "y"])).bindings =
        ofPairs [(.string name, .string "x"), (.string other, .string "y")] := by
    cases name with
    | nil => exact absurd rfl named
    | cons c rest =>
      cases other with
      | nil => exact absurd rfl named'
      | cons d others => rfl
  rw [bound, ofPairs, update_cons, update_cons, update_nil]
  dsimp only [put]
  by_cases same : name = other
  · rw [if_pos same, if_pos (by rw [Value.string_beq, same, beq_self_eq_true])]
    rfl
  · rw [if_neg same, if_neg (by rw [Value.string_beq, beq_iff_eq]; exact same)]
    rfl

/-- Two variables, of which one spells a character by two halves and the other has it, are two in a
document and one in its text. -/
theorem shapes_differ :
    let halves : Text := [.surrogate 61, .surrogate 1536]
    let document := Compilation.exportOf
      [Compilation.variableRecord (.string halves) "x",
        Compilation.variableRecord (.string "😀") "y"]
    let text := print .line document
    let outcome (source : ExportSource) :=
      (Compilation.ofSource .empty source (.string "acme")).outcome.1
    (∃ compiled compiled', outcome (.document document) = .ok compiled ∧
      outcome (.text text) = .ok compiled' ∧ compiled.bindings.length = 2 ∧
      compiled'.bindings.length = 1) ∧
      ¬SameResults .empty (.string "acme") (.document document) (.text text) := by
  intro halves document text outcome
  let document' := Compilation.exportOf
    [Compilation.variableRecord (.string "😀") "x", Compilation.variableRecord (.string "😀") "y"]
  have legible : ∀ record ∈ [Compilation.variableRecord (.string halves) "x",
      Compilation.variableRecord (.string "😀") "y"], Legible Limits.standard 984 record :=
    List.forall_mem_cons.mpr ⟨Compilation.legible_variableRecord (.string 983 _) "x",
      List.forall_mem_singleton.mpr (Compilation.legible_variableRecord (.string 983 _) "y")⟩
  have pair : Text.paired halves = Text.ofString "😀" := by decide +kernel
  have back : reread document = document' := by
    simp only [document, reread_exportOf, List.map_cons, List.map_nil, reread_variableRecord, pair]
    rfl
  have free : (resolved document).Unobstructed :=
    ⟨List.forall_mem_cons.mpr ⟨rfl, List.forall_mem_singleton.mpr rfl⟩, .inl rfl⟩
  have free' : (resolved document').Unobstructed :=
    ⟨List.forall_mem_cons.mpr ⟨rfl, List.forall_mem_singleton.mpr rfl⟩, .inl rfl⟩
  obtain ⟨signals, _, compiles⟩ := Compilation.result_of_unobstructed free (.string "acme")
  obtain ⟨signals', _, compiles'⟩ := Compilation.result_of_unobstructed free' (.string "acme")
  have comes : outcome (.document document) = _ :=
    (Compilation.document_result .empty _ (.string "acme")).trans compiles
  have reads : parse text = .ok document' :=
    (Compilation.parse_exportOf rfl rfl legible).trans (congrArg Except.ok back)
  have comes' : outcome (.text text) = _ :=
    ((Compilation.ofText_result .empty text (.string "acme")).trans
      (by rw [reads, ofRead, Except.bind])).trans compiles'
  have two : (resolved document).bindings.length = 2 :=
    (length_bindings_of_two (by decide) (by decide)).trans (if_neg (by decide))
  have one : (resolved document').bindings.length = 1 :=
    (length_bindings_of_two (by decide) (by decide)).trans (if_pos rfl)
  refine ⟨⟨_, _, comes, comes', two, one⟩, fun same => ?_⟩
  have same := same.compiled
  change (outcome (.document document)).map _ = (outcome (.text text)).map _ at same
  rw [comes, comes'] at same
  have bindings := congrArg (fun compiled => compiled.bindings.length) (Except.ok.inj same)
  have : 2 = 1 := two.symm.trans (bindings.trans one)
  cases this

end Export

end Sources

end ConversionRelay
