import ConversionRelay.Proofs.Container.Inspection
import ConversionRelay.Proofs.Container.Reference
/-!
What an analysis tells of the tags of a container.

Tags with a list of parameters, or none, and with texts for measurement identifiers, or none, are
always analysed. Each identifier of an analytics tag is listed once, where it is met first,
configurations before events; all else is counted or listed tag by tag. So the order of the tags
shows in nothing but the order of what is listed.

Main statement: an analysis is an exact inventory of the tags, in whatever order they come
(`Analysis.inventory_exact`).
-/
namespace ConversionRelay

open Value

namespace Analysis

/-- The keys of the parameters that hold measurement identifiers; the first that has one decides. -/
def identifierKeys : List Text := ["measurementId", "measurementIdOverride"]

/-- A tag with a list of parameters, or none, and with texts for measurement identifiers, or none. -/
structure Regular (tag : Fields) : Prop where
  parameters : fieldOf tag "parameter" = .null ∨ ∃ items, fieldOf tag "parameter" = .array items
  identifiers : ∀ key ∈ identifierKeys,
    valueFor tag key = .null ∨ ∃ id, valueFor tag key = .string id

/-- The text that a value is, unless it is empty. -/
def presentText? (v : Value) : Option Text := v.text?.filter fun s => !s.isEmpty

/-- The measurement identifier of a tag. -/
def identifier? (tag : Fields) : Option Text :=
  identifierKeys.findSome? fun key => presentText? (valueFor tag key)

/-- The measurement identifiers of the analytics tags, configurations before events. -/
def identifiersIn (tags : List Fields) : List Text :=
  (tagsOf .analyticsConfig tags ++ tagsOf .analyticsEvent tags).filterMap identifier?

/-- How many tags are of a type. -/
def countOf (type : TagType) (tags : List Fields) : Nat :=
  (tags.map typeName?).count (some type.name)

section Identifiers

theorem eraseDups_concat {α : Type} [BEq α] [LawfulBEq α] (xs : List α) (a : α) :
    (xs ++ [a]).eraseDups = if a ∈ xs then xs.eraseDups else xs.eraseDups ++ [a] := by
  rw [List.eraseDups_append]
  by_cases known : a ∈ xs
  · simp [List.removeAll, known]
  · simp [List.removeAll, known, List.eraseDups_cons]

theorem presentText?_string (s : Text) :
    presentText? (.string s) = if s = [] then none else some s := by
  cases s <;> rfl

theorem any_same_string {s : Text} {known : List Text} :
    (known.map Value.string).any (Value.string s).same = true ↔ s ∈ known := by
  have same (t : Text) : (Value.string s).same (.string t) = (s == t) := string_beq s t
  simp [same]

/-- An identifier goes to the end unless it is listed already. -/
theorem addIdentifier_string {s : Text} (some : s ≠ []) (known : List Text) :
    addIdentifier (known.map .string) (.string s) =
      (if s ∈ known then known else known ++ [s]).map .string := by
  have present : (Value.string s).isTruthy = true := by simp [isTruthy, some]
  rw [addIdentifier, present, Bool.true_and]
  by_cases member : s ∈ known
  · rw [if_pos member, any_same_string.mpr member]
    rfl
  · rw [if_neg member, Bool.eq_false_iff.mpr (mt any_same_string.mp member), List.map_append]
    rfl

/-- Of the identifiers that are listed, each stands where it was met first. -/
theorem foldl_addIdentifier {ids : List Value}
    (plain : ∀ v ∈ ids, v = .null ∨ ∃ s, v = .string s) :
    ids.foldl addIdentifier [] = ((ids.filterMap presentText?).eraseDups).map .string := by
  induction ids using List.reverseRecOn with
  | nil => rfl
  | append_singleton before v ih =>
    obtain ⟨earlier, last⟩ := List.forall_mem_append.mp plain
    rw [List.foldl_append, ih earlier, List.filterMap_append, List.foldl_cons, List.foldl_nil,
      List.filterMap_cons]
    obtain rfl | ⟨s, rfl⟩ := List.forall_mem_singleton.mp last
    · exact congrArg (fun ids => ids.eraseDups.map Value.string) (List.append_nil _).symm
    rw [presentText?_string]
    by_cases empty : s = []
    · subst empty
      exact congrArg (fun ids => ids.eraseDups.map Value.string) (List.append_nil _).symm
    · rw [if_neg empty, addIdentifier_string empty]
      dsimp only
      rw [List.filterMap_nil, eraseDups_concat]
      simp only [List.mem_eraseDups]

theorem presentText?_orElse {own : Value} (plain : own = .null ∨ ∃ s, own = .string s)
    (other : Value) :
    presentText? (own.orElse other) = (presentText? own).or (presentText? other) := by
  obtain rfl | ⟨s, rfl⟩ := plain
  · rfl
  · by_cases empty : s = []
    · subst empty
      rfl
    · have present : (Value.string s).isTruthy = true := by simp [isTruthy, empty]
      rw [orElse, if_pos present, presentText?_string, if_neg empty, Option.some_or]

variable {tag : Fields}

theorem Regular.identifierOf_plain (regular : Regular tag) :
    identifierOf tag = .null ∨ ∃ id, identifierOf tag = .string id := by
  rw [identifierOf, orElse]
  split
  · exact regular.identifiers _ (by simp [identifierKeys])
  · exact regular.identifiers _ (by simp [identifierKeys])

theorem Regular.identifier?_eq (regular : Regular tag) :
    identifier? tag = presentText? (identifierOf tag) := by
  have own := regular.identifiers "measurementId" (by simp [identifierKeys])
  rw [identifierOf, presentText?_orElse own, identifier?, identifierKeys, List.findSome?_cons,
    List.findSome?_cons, List.findSome?_nil]
  cases presentText? (valueFor tag "measurementId") with
  | some id => rfl
  | none => cases presentText? (valueFor tag "measurementIdOverride") <;> rfl

theorem Regular.not_obstructive (regular : Regular tag) : ¬Obstructive tag := by
  intro obstructive
  have unlistable : Unlistable (fieldOf tag "parameter") := obstructive
  obtain null | ⟨items, lists⟩ := regular.parameters
  · rw [null] at unlistable
    cases unlistable
  · rw [lists] at unlistable
    cases unlistable

end Identifiers

section Inventory

/-- An analysis tells what the tags of an export are like, no more and no less. -/
structure Inventory (found : Export) (analysis : Analysis) : Prop where
  totalTags : analysis.totalTags = found.tags.length
  variableCount : analysis.variableCount = found.records.length
  triggerCount : analysis.triggerCount = found.triggers.length
  analyticsConfigs : analysis.analyticsConfigs = countOf .analyticsConfig found.tags
  analyticsEvents : analysis.analyticsEvents = countOf .analyticsEvent found.tags
  conversions : analysis.conversions = countOf .adsConversion found.tags
  counts_le : analysis.analyticsConfigs + analysis.analyticsEvents + analysis.conversions ≤
    analysis.totalTags
  /-- Repetitions apart, the identifiers are listed in the order in which they are met. -/
  identifiers : analysis.identifiers = (identifiersIn found.tags).eraseDups.map .string
  once : analysis.identifiers.Nodup
  complete : ∀ v, v ∈ analysis.identifiers ↔ ∃ tag ∈ found.tags,
    (typeName? tag = some TagType.analyticsConfig.name ∨
      typeName? tag = some TagType.analyticsEvent.name) ∧
    ∃ id, identifier? tag = some id ∧ v = .string id
  adsConversions : analysis.adsConversions = (tagsOf .adsConversion found.tags).map entryOf
  paused : pausedAdvice ∈ analysis.recommendations ↔
    ∃ tag ∈ found.tags, (fieldOf tag "paused").isTruthy = true
  customHtml : customHtmlAdvice ∈ analysis.recommendations ↔
    ∃ tag ∈ found.tags, typeName? tag = some TagType.customHtml.name
  linker : linkerAdvice ∈ analysis.recommendations ↔
    ∀ tag ∈ found.tags, typeName? tag ≠ some TagType.conversionLinker.name
  advice : analysis.recommendations.Sublist [pausedAdvice, customHtmlAdvice, linkerAdvice]

theorem length_tagsOf (type : TagType) (tags : List Fields) :
    (tagsOf type tags).length = countOf type tags := by
  simp [tagsOf, countOf, List.count, List.countP_eq_length_filter, List.filter_map,
    Function.comp_def, beq_eq_decide]

theorem count_add_le {α : Type} [BEq α] [LawfulBEq α] {a b c : α} (apart : [a, b, c].Nodup)
    (xs : List α) : xs.count a + xs.count b + xs.count c ≤ xs.length := by
  induction xs with
  | nil => simp
  | cons x rest ih =>
    simp only [List.nodup_cons, List.mem_cons, List.not_mem_nil, or_false, not_or] at apart
    simp only [List.count_cons, List.length_cons, beq_iff_eq]
    grind

/-- A tag is of one type only. -/
theorem countOf_add_le (tags : List Fields) : countOf .analyticsConfig tags +
    countOf .analyticsEvent tags + countOf .adsConversion tags ≤ tags.length := by
  have apart : [some TagType.analyticsConfig.name, some TagType.analyticsEvent.name,
    some TagType.adsConversion.name].Nodup := by decide
  rw [← List.length_map typeName?]
  exact count_add_le apart (tags.map typeName?)

theorem mem_identifiersIn {id : Text} {tags : List Fields} : id ∈ identifiersIn tags ↔
    ∃ tag ∈ tags, (typeName? tag = some TagType.analyticsConfig.name ∨
      typeName? tag = some TagType.analyticsEvent.name) ∧ identifier? tag = some id := by
  simp only [identifiersIn, tagsOf, List.mem_filterMap, List.mem_append, List.mem_filter,
    decide_eq_true_eq, ← and_or_left, and_assoc]

theorem mem_recommendationsFor (tags : List Fields) :
    (pausedAdvice ∈ recommendationsFor tags ↔
      ∃ tag ∈ tags, (fieldOf tag "paused").isTruthy = true) ∧
    (customHtmlAdvice ∈ recommendationsFor tags ↔
      ∃ tag ∈ tags, typeName? tag = some TagType.customHtml.name) ∧
    (linkerAdvice ∈ recommendationsFor tags ↔
      ∀ tag ∈ tags, typeName? tag ≠ some TagType.conversionLinker.name) := by
  have apart : [pausedAdvice, customHtmlAdvice, linkerAdvice].Nodup := by decide
  simp only [List.nodup_cons, List.mem_cons, List.not_mem_nil, or_false, not_or] at apart
  obtain ⟨⟨notHtml, notLinker⟩, notLinker', _⟩ := apart
  simp [recommendationsFor, isOf_iff, notHtml, notLinker, notLinker', Ne.symm notHtml,
    Ne.symm notLinker, Ne.symm notLinker']

theorem recommendationsFor_sublist (tags : List Fields) :
    (recommendationsFor tags).Sublist [pausedAdvice, customHtmlAdvice, linkerAdvice] := by
  have ofCondition (condition : Bool) (advice : Text) :
      (if condition then [advice] else []).Sublist [advice] := by cases condition <;> simp
  have ofLack (condition : Bool) (advice : Text) :
      (if condition then [] else [advice]).Sublist [advice] := by cases condition <;> simp
  exact ((ofCondition _ pausedAdvice).append (ofCondition _ customHtmlAdvice)).append
    (ofLack _ linkerAdvice)

variable {found other : Export}

theorem inspectable_of_regular (regular : ∀ tag ∈ found.tags, Regular tag) :
    Inspectable found := fun tag member _ _ _ => (regular tag member).not_obstructive

theorem identifiers_described (regular : ∀ tag ∈ found.tags, Regular tag) :
    (described found).identifiers = (identifiersIn found.tags).eraseDups.map .string := by
  have among : ∀ tag ∈ tagsOf .analyticsConfig found.tags ++ tagsOf .analyticsEvent found.tags,
      Regular tag := by
    intro tag member
    obtain config | event := List.mem_append.mp member
    · exact regular tag (List.mem_of_mem_filter config)
    · exact regular tag (List.mem_of_mem_filter event)
  have plain : ∀ v ∈ (tagsOf .analyticsConfig found.tags ++
      tagsOf .analyticsEvent found.tags).map identifierOf, v = .null ∨ ∃ id, v = .string id :=
    List.forall_mem_map.mpr fun tag member => (among tag member).identifierOf_plain
  have each := List.filterMap_congr fun tag member => (among tag member).identifier?_eq
  rw [described, foldl_addIdentifier plain, List.filterMap_map, identifiersIn, each]
  rfl

/-- What is found in an export with tags of the expected form. -/
theorem inventory_described (regular : ∀ tag ∈ found.tags, Regular tag) :
    Inventory found (described found) := by
  have identifiers := identifiers_described regular
  obtain ⟨paused, customHtml, linker⟩ := mem_recommendationsFor found.tags
  exact {
    totalTags := rfl
    variableCount := rfl
    triggerCount := rfl
    analyticsConfigs := length_tagsOf _ _
    analyticsEvents := length_tagsOf _ _
    conversions := length_tagsOf _ _
    counts_le := by
      have bound := countOf_add_le found.tags
      rwa [← length_tagsOf, ← length_tagsOf, ← length_tagsOf] at bound
    identifiers
    once := by
      rw [identifiers]
      exact (nodup_eraseDups _).map fun _ _ same => Value.string.inj same
    complete := by
      intro v
      rw [identifiers, List.mem_map]
      simp only [List.mem_eraseDups, mem_identifiersIn]
      constructor
      · rintro ⟨id, ⟨tag, member, typed, is⟩, rfl⟩
        exact ⟨tag, member, typed, id, is, rfl⟩
      · rintro ⟨tag, member, typed, id, is, rfl⟩
        exact ⟨id, ⟨tag, member, typed, is⟩, rfl⟩
    adsConversions := rfl
    paused
    customHtml
    linker
    advice := recommendationsFor_sublist found.tags }

end Inventory

section Order

/-- Analyses that tell the same of tags, but may list it in another order. -/
structure Reordered (a b : Analysis) : Prop where
  totalTags : a.totalTags = b.totalTags
  analyticsConfigs : a.analyticsConfigs = b.analyticsConfigs
  analyticsEvents : a.analyticsEvents = b.analyticsEvents
  conversions : a.conversions = b.conversions
  variableCount : a.variableCount = b.variableCount
  triggerCount : a.triggerCount = b.triggerCount
  recommendations : a.recommendations = b.recommendations
  identifiers : ∀ v, v ∈ a.identifiers ↔ v ∈ b.identifiers
  adsConversions : a.adsConversions.Perm b.adsConversions

variable {found other : Export}

theorem described_reordered (regular : ∀ tag ∈ found.tags, Regular tag)
    (tags : found.tags.Perm other.tags) (records : found.records.length = other.records.length)
    (triggers : found.triggers.length = other.triggers.length) :
    Reordered (described found) (described other) := by
  have regular' : ∀ tag ∈ other.tags, Regular tag := fun tag member =>
    regular tag (tags.mem_iff.mpr member)
  have each (type : TagType) : (tagsOf type found.tags).Perm (tagsOf type other.tags) :=
    tags.filter _
  exact {
    totalTags := tags.length_eq
    analyticsConfigs := (each _).length_eq
    analyticsEvents := (each _).length_eq
    conversions := (each _).length_eq
    variableCount := records
    triggerCount := triggers
    recommendations := by
      change recommendationsFor found.tags = recommendationsFor other.tags
      simp only [recommendationsFor, tags.any_eq]
    identifiers := by
      intro v
      rw [(inventory_described regular).complete, (inventory_described regular').complete]
      simp only [tags.mem_iff]
    adsConversions := (each _).map entryOf }

end Order

/-- Tags with a list of parameters, or none, and with texts for measurement identifiers, or none,
are analysed, and the analysis is an exact inventory of them. The same tags in another order lead to
the same numbers and recommendations, and to the same identifiers and conversions in another order. -/
theorem inventory_exact (files : FileTree) {source : ExportSource} {found : Export}
    (loads : (Export.load files source).outcome.1 = .ok found)
    (regular : ∀ tag ∈ found.tags, Regular tag) :
    ∃ analysis, (ofSource files source).outcome.1 = .ok analysis ∧ Inventory found analysis ∧
      ∀ source' found', (Export.load files source').outcome.1 = .ok found' →
        found.tags.Perm found'.tags → found.records.length = found'.records.length →
        found.triggers.length = found'.triggers.length →
        ∃ analysis', (ofSource files source').outcome.1 = .ok analysis' ∧
          Inventory found' analysis' ∧ Reordered analysis analysis' := by
  refine ⟨described found, ?_, inventory_described regular, ?_⟩
  · rw [ofSource_outcome, loads]
    exact ofExport_of_inspectable (inspectable_of_regular regular)
  · intro source' found' loads' tags records triggers
    have regular' : ∀ tag ∈ found'.tags, Regular tag := fun tag member =>
      regular tag (tags.mem_iff.mpr member)
    refine ⟨described found', ?_, inventory_described regular',
      described_reordered regular tags records triggers⟩
    rw [ofSource_outcome, loads']
    exact ofExport_of_inspectable (inspectable_of_regular regular')

/-- A configuration is listed before an event that stands in front of it, and its identifier is not
repeated for an event that takes it up; the other way round, the same is found. -/
theorem inventory_exact_repeated :
    let parameter (key id : Text) : Value := .object [("key", .string key), ("value", .string id)]
    let tag (type : TagType) (parameters : List Value) : Fields :=
      [("type", .string type.name), ("parameter", .array parameters)]
    let tags := [tag .analyticsEvent [parameter "measurementIdOverride" "G-2"],
      tag .analyticsConfig [parameter "measurementId" "G-1"],
      tag .analyticsEvent [parameter "measurementId" "", parameter "measurementIdOverride" "G-1"]]
    let analysed (tags : List Fields) :=
      (ofSource .empty (.loaded { Export.empty with tags })).outcome.1
    (∀ tag ∈ tags, Regular tag) ∧ ∃ analysis, analysed tags = .ok analysis ∧
      analysis.identifiers = [.string "G-1", .string "G-2"] ∧
      ∃ analysis', analysed tags.reverse = .ok analysis' ∧ Reordered analysis analysis' := by
  intro parameter tag tags analysed
  have regular : ∀ tag ∈ tags, Regular tag := by
    intro tag member
    simp only [tags, List.mem_cons, List.not_mem_nil, or_false] at member
    obtain rfl | rfl | rfl := member
    · exact ⟨.inr ⟨_, rfl⟩, List.forall_mem_cons.mpr ⟨.inl rfl,
        List.forall_mem_cons.mpr ⟨.inr ⟨_, rfl⟩, List.forall_mem_nil _⟩⟩⟩
    · exact ⟨.inr ⟨_, rfl⟩, List.forall_mem_cons.mpr ⟨.inr ⟨_, rfl⟩,
        List.forall_mem_cons.mpr ⟨.inl rfl, List.forall_mem_nil _⟩⟩⟩
    · exact ⟨.inr ⟨_, rfl⟩, List.forall_mem_cons.mpr ⟨.inr ⟨_, rfl⟩,
        List.forall_mem_cons.mpr ⟨.inr ⟨_, rfl⟩, List.forall_mem_nil _⟩⟩⟩
  let found : Export := { Export.empty with tags }
  have loads : (Export.load .empty (.loaded found)).outcome.1 = .ok found := rfl
  obtain ⟨analysis, analyses, inventory, reordered⟩ := inventory_exact .empty loads regular
  obtain ⟨analysis', analyses', _, same⟩ := reordered
    (.loaded { Export.empty with tags := tags.reverse }) _ rfl (List.reverse_perm tags).symm rfl rfl
  have once : (identifiersIn tags).eraseDups = (["G-1", "G-2"] : List Text) := by decide
  refine ⟨regular, analysis, analyses, ?_, analysis', analyses', same⟩
  rw [inventory.identifiers, once]
  rfl

end Analysis

end ConversionRelay
