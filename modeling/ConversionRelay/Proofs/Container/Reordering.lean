import ConversionRelay.Proofs.Container.Analysis
import ConversionRelay.Proofs.Container.Binding
import ConversionRelay.Proofs.Container.Compilation
import ConversionRelay.Proofs.Container.Reference
/-!
Exports whose objects list fields in different orders, and exports with the same tags in another
order.

The order of lists is part of an export, as that of its records shows in the bindings. The order of
fields is not: everything is asked for by key, and where all values of an object are gone through,
the names that are found are put in order afterwards. Likewise the tags count for a compilation only
by the variables that they refer to, whatever their order and number.

Main statement: rearranged exports whose records bind texts compile to the same, with the same tags
in any order, and are analysed alike (`Export.order_irrelevant`).
-/
namespace ConversionRelay

open OrderedMap Value

section Records

namespace Bindings

theorem pathOfParameter?_rearranged {v w : Value} (rearranged : Rearranged v w) :
    Option.Rel Rearranged (pathOfParameter? v) (pathOfParameter? w) := by
  obtain ⟨flat, rfl⟩ | ⟨xs, ys, rfl, rfl, _⟩ | ⟨fields, fields', rfl, rfl, own⟩ :=
    rearranged.shapes
  · cases v with
    | object => cases flat
    | _ => exact .none
  · exact .none
  · have given := own.fieldOf "value"
    rw [pathOfParameter?, pathOfParameter?, (own.fieldOf "key").equal_string_eq]
    rw [given.isTruthy_eq]
    split
    · exact .some given
    · exact .none

theorem ofRecord?_rearranged {v w : Value} (rearranged : Rearranged v w) :
    Option.Rel (fun entry entry' => Rearranged entry.1 entry'.1 ∧ Rearranged entry.2 entry'.2)
      (ofRecord? v) (ofRecord? w) := by
  obtain ⟨flat, rfl⟩ | ⟨xs, ys, rfl, rfl, _⟩ | ⟨fields, fields', rfl, rfl, own⟩ :=
    rearranged.shapes
  · cases v with
    | object => cases flat
    | _ => exact .none
  · exact .none
  · have name := own.fieldOf "name"
    have found := Rearranged.findSome? (own.fieldOf "parameter").itemsOrNone
      fun _ _ => pathOfParameter?_rearranged
    rw [ofRecord?, ofRecord?]
    rw [name.isTruthy_eq]
    split
    · generalize (fieldOf fields "parameter").itemsOrNone.findSome? pathOfParameter? = path,
        (fieldOf fields' "parameter").itemsOrNone.findSome? pathOfParameter? = path' at found ⊢
      cases found with
      | some related => exact .some ⟨name, related⟩
      | none => exact .none
    · exact .none

/-- Rearranged records that bind texts to texts bind the same. -/
theorem bound_rearranged {records others : List Value} (binds : BindsTexts records)
    (rearranged : List.Forall₂ Rearranged records others) : bound records = bound others := by
  induction rearranged with
  | nil => rfl
  | @cons record other records others first _ ih =>
    have later : BindsTexts records := fun record member =>
      binds record (List.mem_cons_of_mem _ member)
    have own := binds record List.mem_cons_self
    have same : ofRecord? record = ofRecord? other := by
      have related := ofRecord?_rearranged first
      generalize ofRecord? record = entry?, ofRecord? other = other? at own related ⊢
      cases related with
      | none => rfl
      | @some entry entry' related =>
        obtain ⟨⟨name, isName⟩, path, isPath⟩ := own entry.1 entry.2 rfl
        have sameName := related.1.eq_of_isKey (by rw [isName]; rfl)
        have samePath := related.2.eq_of_isKey (by rw [isPath]; rfl)
        rw [Prod.ext sameName samePath]
    rw [bound, bound, List.filterMap_cons, List.filterMap_cons, same]
    have rest : records.filterMap ofRecord? = others.filterMap ofRecord? := ih later
    rw [rest]

end Bindings

end Records

section Exports

namespace Export

/-- The records of an export, told by what is a list. -/
theorem recordsIn_eq (body : Fields) : recordsIn body =
    match (fieldOf body "macro").items?, (fieldOf body "variable").items? with
    | some records, _ => (.olderVariables, records)
    | none, some records => (.newerVariables, records)
    | none, none => (.noVariables, []) := by
  unfold recordsIn
  cases fieldOf body "macro" with
  | array records => rfl
  | _ => cases fieldOf body "variable" <;> rfl

/-- Exports whose objects list fields in different orders. -/
structure Rearranged (found other : Export) : Prop where
  format : found.format = other.format
  tags : List.Forall₂ Analysis.SameFields found.tags other.tags
  records : List.Forall₂ Value.Rearranged found.records other.records
  triggers : List.Forall₂ Value.Rearranged found.triggers other.triggers

variable {body other : Fields}

theorem recordsIn_rearranged (rearranged : Value.Rearranged (.object body) (.object other)) :
    (recordsIn body).1 = (recordsIn other).1 ∧
      List.Forall₂ Value.Rearranged (recordsIn body).2 (recordsIn other).2 := by
  have older := (rearranged.fieldOf "macro").items?
  have newer := (rearranged.fieldOf "variable").items?
  rw [recordsIn_eq, recordsIn_eq]
  generalize (fieldOf body "macro").items? = p, (fieldOf other "macro").items? = p' at older ⊢
  generalize (fieldOf body "variable").items? = q, (fieldOf other "variable").items? = q' at newer ⊢
  cases older with
  | some related => exact ⟨rfl, related⟩
  | none =>
    cases newer with
    | some related => exact ⟨rfl, related⟩
    | none => exact ⟨rfl, .nil⟩

theorem ofBody_rearranged (wrapped : Bool)
    (rearranged : Value.Rearranged (.object body) (.object other)) :
    Rearranged (ofBody wrapped body) (ofBody wrapped other) := by
  obtain ⟨format, records⟩ := recordsIn_rearranged rearranged
  refine ⟨format, ?_, records, (rearranged.fieldOf "trigger").itemsOrNone⟩
  exact List.rel_filterMap (fun _ _ each => each.fields?) (rearranged.fieldOf "tag").itemsOrNone

theorem ofFields_rearranged (rearranged : Value.Rearranged (.object body) (.object other)) :
    Rearranged (ofFields body) (ofFields other) := by
  have inner := rearranged.fieldOf wrapperKey
  unfold ofFields
  generalize fieldOf body wrapperKey = v, fieldOf other wrapperKey = w at inner ⊢
  obtain ⟨flat, rfl⟩ | ⟨xs, ys, rfl, rfl, _⟩ | ⟨fields, fields', rfl, rfl, held⟩ := inner.shapes
  · cases v with
    | object => cases flat
    | _ => exact ofBody_rearranged false rearranged
  · exact ofBody_rearranged false rearranged
  · exact ofBody_rearranged true held

end Export

end Exports

section Compiling

namespace Compilation

variable {found other : Export}

/-- Compiling looks at the variables that tags refer to, at what records bind, and at the format. -/
theorem ofExport_congr (format : found.format = other.format)
    (referenced : Reference.variablesOfAll (found.tags.map .object) =
      Reference.variablesOfAll (other.tags.map .object))
    (binds : Bindings.ofRecords found.records = Bindings.ofRecords other.records)
    (customer : Value) : ofExport found customer = ofExport other customer := by
  rw [ofExport, ofExport, format, referenced, binds]

theorem ofExport_rearranged (texts : BindsTexts found.records)
    (rearranged : Export.Rearranged found other) (customer : Value) :
    ofExport found customer = ofExport other customer := by
  apply ofExport_congr rearranged.format
  · apply Reference.variablesOfAll_of_rearranged
    exact List.forall₂_map_left_iff.mpr (List.forall₂_map_right_iff.mpr rearranged.tags)
  · rw [Bindings.ofRecords_eq, Bindings.ofRecords_eq,
      Bindings.bound_rearranged texts rearranged.records]

theorem ofSource_document (files : FileTree) (document : Fields) (customer : Value) :
    ofSource files (.document (.object document)) customer =
      ofExport (Export.ofFields document) customer := by
  rw [ofSource, Export.load, pure_bind]

/-- An export whose records bind texts to texts is compiled. -/
theorem compiles_of_bindsTexts (texts : BindsTexts found.records) (customer : Value) :
    ∃ compiled, result found customer = .ok compiled := by
  rw [result, Bindings.ofRecords_of_bindsTexts texts]
  dsimp only
  rw [Signals.ofBindings_ofTexts]
  exact ⟨_, rfl⟩

end Compilation

namespace Export

/-- Objects of which the second lists the tags of the first in some order, each of them at least
once, and has the same in every other field. -/
structure Retagged (body other : Fields) : Prop where
  tags : ∃ tags others, fieldOf body "tag" = .array tags ∧ fieldOf other "tag" = .array others ∧
    ∀ tag, tag ∈ tags ↔ tag ∈ others
  kept : ∀ key : Text, key ≠ "tag" → fieldOf other key = fieldOf body key

/-- Documents of which the second has the tags of the first in another order and number, be it in
the export that they are or in the one that they hold. -/
inductive Retags : Fields → Fields → Prop
  | bare {body other : Fields} (retagged : Retagged body other) : Retags body other
  | wrapped {document document' body other : Fields}
      (holds : fieldOf document wrapperKey = .object body)
      (holds' : fieldOf document' wrapperKey = .object other) (retagged : Retagged body other) :
      Retags document document'

variable {body other document document' : Fields}

theorem ofBody_retagged (wrapped wrapped' : Bool) (retagged : Retagged body other)
    (customer : Value) : Compilation.ofExport (ofBody wrapped other) customer =
      Compilation.ofExport (ofBody wrapped' body) customer := by
  obtain ⟨tags, others, is, is', same⟩ := retagged.tags
  have older := retagged.kept "macro" (by decide)
  have newer := retagged.kept "variable" (by decide)
  have records : recordsIn other = recordsIn body := by rw [recordsIn, recordsIn, older, newer]
  apply Compilation.ofExport_congr
  · rw [ofBody, ofBody, records]
  · rw [ofBody, ofBody, is, is']
    apply Reference.variablesOfAll_congr
    intro tag
    simp only [itemsOrNone, List.mem_map, List.mem_filterMap, same]
  · rw [ofBody, ofBody, records]

/-- The order and the number of the same tags do not matter to a compilation. -/
theorem ofFields_retags (retags : Retags document document') (customer : Value) :
    Compilation.ofExport (ofFields document') customer =
      Compilation.ofExport (ofFields document) customer := by
  cases retags with
  | bare retagged =>
    have inner := retagged.kept wrapperKey (by decide)
    unfold ofFields
    rw [inner]
    split
    · rfl
    · exact ofBody_retagged false false retagged customer
  | wrapped holds holds' retagged =>
    rw [ofFields, ofFields, holds, holds']
    exact ofBody_retagged true true retagged customer

/-- An export whose records bind texts to texts compiles. Another one that lists the fields of its
objects in different orders compiles to the same, with the same lines of the log, also when its tags
are put in another order or repeated. Both are analysed alike: for one and the same reason neither
is, or their analyses are interchangeable and differ at most in the order of fields. -/
theorem order_irrelevant (files : FileTree) (customer : Value)
    (rearranged : Value.Rearranged (.object document) (.object document'))
    (texts : BindsTexts (ofFields document).records) :
    (∃ compiled lines,
      (Compilation.ofSource files (.document (.object document)) customer).outcome =
        (.ok compiled, lines) ∧
      (Compilation.ofSource files (.document (.object document')) customer).outcome =
        (.ok compiled, lines) ∧
      ∀ retagged, Retags document' retagged →
        (Compilation.ofSource files (.document (.object retagged)) customer).outcome =
          (.ok compiled, lines)) ∧
    EndsAlike
      (fun a b => Value.Rearranged a.document b.document ∧ a.document.same b.document = true)
      (Analysis.ofSource files (.document (.object document))).outcome.1
      (Analysis.ofSource files (.document (.object document'))).outcome.1 := by
  have own := ofFields_rearranged rearranged
  constructor
  · obtain ⟨compiled, compiles⟩ := Compilation.compiles_of_bindsTexts texts customer
    rw [← Compilation.document_result files] at compiles
    have same := Compilation.ofExport_rearranged texts own customer
    rw [Compilation.ofSource_document] at compiles
    refine ⟨compiled, (Compilation.ofExport (ofFields document) customer).outcome.2, ?_, ?_, ?_⟩
    · rw [Compilation.ofSource_document]
      exact Prod.ext compiles rfl
    · rw [Compilation.ofSource_document, ← same]
      exact Prod.ext compiles rfl
    · intro retagged retags
      rw [Compilation.ofSource_document, ofFields_retags retags, ← same]
      exact Prod.ext compiles rfl
  · change EndsAlike _ (Analysis.ofExport (ofFields document))
      (Analysis.ofExport (ofFields document'))
    exact (Analysis.ofExport_rearranged own.tags own.records.length_eq own.triggers.length_eq).mono
      fun _ _ related => ⟨related.document, related.document.same_eq_true⟩

/-- An export with a conversion and a variable, the same with all fields swapped, and that with the
conversion repeated. -/
theorem order_irrelevant_conversion :
    let id : Text := "AW-\x7b\x7bAccount\x7d\x7d"
    let parameter : Value := .object [("key", .string "conversionId"), ("value", .string id)]
    let parameter' : Value := .object [("value", .string id), ("key", .string "conversionId")]
    let tag : Value := .object [("type", .string "awct"), ("parameter", .array [parameter])]
    let tag' : Value := .object [("parameter", .array [parameter']), ("type", .string "awct")]
    let record := Compilation.variableRecord (.string "Revenue") "total"
    let record' : Value := .object [("parameter", .array [.object
      [("value", .string "total"), ("key", .string Bindings.pathParameter)]]),
      ("name", .string "Revenue")]
    let document : Fields := [("tag", .array [tag]), ("macro", .array [record])]
    let document' : Fields := [("macro", .array [record']), ("tag", .array [tag'])]
    let retagged : Fields := [("macro", .array [record']), ("tag", .array [tag', tag'])]
    let outcome (document : Fields) :=
      (Compilation.ofSource .empty (.document (.object document)) (.string "acme")).outcome
    let analysed (document : Fields) :=
      (Analysis.ofSource .empty (.document (.object document))).outcome.1
    Value.Rearranged (.object document) (.object document') ∧
      BindsTexts (ofFields document).records ∧ Retags document' retagged ∧
      (∃ compiled lines, outcome document = (.ok compiled, lines) ∧
        outcome document' = (.ok compiled, lines) ∧ outcome retagged = (.ok compiled, lines)) ∧
      EndsAlike
        (fun a b => Value.Rearranged a.document b.document ∧ a.document.same b.document = true)
        (analysed document) (analysed document') := by
  intro id parameter parameter' tag tag' record record' document document' retagged outcome analysed
  have plain (s : Text) : Value.Rearranged (.string s) (.string s) := .plain rfl
  have tags : Value.Rearranged tag tag' := .swapped (by decide) (plain _)
    (.of_items (.cons (.swapped (by decide) (plain _) (plain _)) .nil))
  have records : Value.Rearranged record record' := .swapped (by decide) (plain _)
    (.of_items (.cons (.swapped (by decide) (plain _) (plain _)) .nil))
  have rearranged : Value.Rearranged (.object document) (.object document') :=
    .swapped (by decide) (.of_items (.cons tags .nil)) (.of_items (.cons records .nil))
  have texts : BindsTexts (ofFields document).records := by
    refine List.forall_mem_singleton.mpr fun name path binds => ?_
    cases binds
    exact ⟨⟨_, rfl⟩, _, rfl⟩
  have retags : Retags document' retagged := by
    refine .bare ⟨⟨[tag'], [tag', tag'], rfl, rfl, fun tag => by simp⟩, fun key other => ?_⟩
    simp only [document', retagged, fieldOf, lookup?_cons]
    split
    · rfl
    · rw [if_neg (by simpa using Ne.symm other), if_neg (by simpa using Ne.symm other)]
  obtain ⟨⟨compiled, lines, first, second, third⟩, alike⟩ :=
    order_irrelevant .empty (.string "acme") rearranged texts
  exact ⟨rearranged, texts, retags, ⟨compiled, lines, first, second, third retagged retags⟩, alike⟩

end Export

end Compiling

end ConversionRelay
