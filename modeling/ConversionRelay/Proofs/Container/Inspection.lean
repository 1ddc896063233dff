import ConversionRelay.Proofs.Container.Analysis
import ConversionRelay.Proofs.Container.Compilation
/-!
When analysing a text comes to a result.

An analysis looks at the parameters of three types of tags. A tag without parameters tells nothing,
and neither does one with a text or an object in their place, though it is looked through. But a
number or a truth value that counts as present cannot be looked through. It keeps the export from
being analysed, where the names in the tag are found all the same.

Main statement: analysing a text succeeds exactly if no tag that is looked at has such parameters,
and then it tells what the parameters hold (`Analysis.ofText_analysed`). An export with such a tag
compiles (`Analysis.ofText_refused`).
-/
namespace ConversionRelay

open Value

namespace Analysis

section Parameters

/-- A value that counts as present and has nothing in it to look through. -/
inductive Unlistable : Value → Prop
  | true : Unlistable (.bool true)
  | int {n : Int} (nonzero : n ≠ 0) : Unlistable (.int n)
  | double {x : Binary64} (nonzero : x.isZero = false) : Unlistable (.double x)

theorem unlistable_iff {v : Value} :
    Unlistable v ↔ v.isTruthy = true ∧ v.elements? = none := by
  constructor
  · intro unlistable
    cases unlistable with
    | true => exact ⟨rfl, rfl⟩
    | int nonzero => exact ⟨by simpa [isTruthy] using nonzero, rfl⟩
    | double nonzero => exact ⟨by simp [isTruthy, nonzero], rfl⟩
  · rintro ⟨present, unlisted⟩
    cases v with
    | bool b =>
      cases present
      exact .true
    | int n => exact .int (by simpa [isTruthy] using present)
    | double x => exact .double (by simpa [isTruthy] using present)
    | null => cases present
    | _ => cases unlisted

instance : DecidablePred Unlistable := fun _ => decidable_of_iff _ unlistable_iff.symm

/-- What parameters with a key hold, in order. -/
def valuesWith (key : Text) (parameters : List Value) : List Value :=
  ((parameters.filterMap fields?).filter fun parameter =>
    (fieldOf parameter "key").text? = some key).map fun parameter => fieldOf parameter "value"

/-- What the first parameter of a tag with a key holds, null if there is none. -/
def valueFor (tag : Fields) (key : Text) : Value :=
  (valuesWith key (fieldOf tag "parameter").itemsOrNone).headD .null

theorem text?_eq_some {v : Value} {s : Text} : v.text? = some s ↔ v = .string s := by
  cases v <;> simp [text?]

theorem valuesWith_object (key : Text) (fields : Fields) (rest : List Value) :
    valuesWith key (.object fields :: rest) =
      if (fieldOf fields "key").text? = some key then
        fieldOf fields "value" :: valuesWith key rest
      else valuesWith key rest := by
  simp only [valuesWith, List.filterMap_cons, fields?, List.filter_cons, decide_eq_true_eq]
  split <;> rfl

theorem findSome?_parameterValue? (key : Text) (parameters : List Value) :
    parameters.findSome? (parameterValue? key) = (valuesWith key parameters).head? := by
  induction parameters with
  | nil => rfl
  | cons parameter rest ih =>
    cases parameter with
    | object fields =>
      rw [valuesWith_object, List.findSome?_cons, parameterValue?]
      by_cases keyed : fieldOf fields "key" = .string key
      · rw [if_pos (text?_eq_some.2 keyed), if_pos (equal_string_iff.mpr keyed)]
        rfl
      · rw [if_neg (mt text?_eq_some.1 keyed), if_neg (mt equal_string_iff.mp keyed)]
        exact ih
    | _ => exact ih

/-- What is looked through tells no more than the parameters in it that are objects. -/
theorem findSome?_elements? {v : Value} {elements : List Value}
    (lists : v.elements? = some elements) (key : Text) :
    elements.findSome? (parameterValue? key) = (valuesWith key v.itemsOrNone).head? := by
  cases v with
  | array items =>
    cases lists
    exact findSome?_parameterValue? key _
  | string s =>
    cases lists
    exact findSome?_parameterValue?_texts key _ s
  | object fields =>
    cases lists
    exact findSome?_parameterValue?_texts key _ fields
  | _ => cases lists

theorem itemsOrNone_of_not_truthy {v : Value} (absent : v.isTruthy = false) :
    v.itemsOrNone = [] := by
  cases v with
  | array items => simpa [isTruthy, itemsOrNone] using absent
  | _ => rfl

/-- A tag with parameters that cannot be looked through. -/
def Obstructive (tag : Fields) : Prop := Unlistable (fieldOf tag "parameter")

instance : DecidablePred Obstructive := fun _ => inferInstanceAs (Decidable (Unlistable _))

/-- The fault that such a tag leads to. -/
def obstruction (tag : Fields) : Fault := .notIterable (fieldOf tag "parameter").kind

/-- The first parameter with a key is read, unless the parameters cannot be looked through. -/
theorem parameter_eq (tag : Fields) (key : Text) : parameter tag key =
    if Obstructive tag then .error (obstruction tag) else .ok (valueFor tag key) := by
  unfold parameter
  dsimp only
  by_cases present : (fieldOf tag "parameter").isTruthy = true
  · rw [if_pos present]
    cases lists : (fieldOf tag "parameter").elements? with
    | none =>
      have obstructive : Obstructive tag := unlistable_iff.2 ⟨present, lists⟩
      rw [if_pos obstructive, obstruction]
    | some elements =>
      have listed : ¬Obstructive tag := fun obstructive => by
        cases lists.symm.trans (unlistable_iff.1 obstructive).2
      dsimp only
      rw [if_neg listed, findSome?_elements? lists, valueFor]
      cases valuesWith key (fieldOf tag "parameter").itemsOrNone <;> rfl
  · have listed : ¬Obstructive tag := fun obstructive =>
      present (unlistable_iff.1 obstructive).1
    rw [if_neg present, if_neg listed, valueFor,
      itemsOrNone_of_not_truthy (by simpa using present)]
    rfl

end Parameters

section Tags

/-- The type that a tag names. -/
def typeName? (tag : Fields) : Option Text := (fieldOf tag "type").text?

/-- The tags of a type. -/
def tagsOf (type : TagType) (tags : List Fields) : List Fields :=
  tags.filter fun tag => typeName? tag = some type.name

theorem isOf_iff {type : TagType} {tag : Fields} :
    type.isOf tag = true ↔ typeName? tag = some type.name := by
  rw [TagType.isOf, equal_string_iff, typeName?, text?_eq_some]

theorem filter_isOf (type : TagType) (tags : List Fields) :
    tags.filter type.isOf = tagsOf type tags := by
  apply List.filter_congr
  intro tag _
  rw [Bool.eq_iff_iff, isOf_iff, decide_eq_true_eq]

/-- The types of tags whose parameters are looked at, in order. -/
def inspectedTypes : List TagType := [.analyticsConfig, .analyticsEvent, .adsConversion]

/-- The tags whose parameters are looked at, in the order in which they are. -/
def inspected (tags : List Fields) : List Fields := inspectedTypes.flatMap (tagsOf · tags)

theorem mem_inspected {tag : Fields} {tags : List Fields} : tag ∈ inspected tags ↔
    tag ∈ tags ∧ ∃ type ∈ inspectedTypes, typeName? tag = some type.name := by
  simp only [inspected, List.mem_flatMap, tagsOf, List.mem_filter, decide_eq_true_eq]
  constructor
  · rintro ⟨type, known, member, typed⟩
    exact ⟨member, type, known, typed⟩
  · rintro ⟨member, type, known, typed⟩
    exact ⟨type, known, member, typed⟩

/-- The measurement identifier of a tag whose parameters can be looked through. -/
def identifierOf (tag : Fields) : Value :=
  (valueFor tag "measurementId").orElse (valueFor tag "measurementIdOverride")

/-- The entry of an advertising conversion whose parameters can be looked through. -/
def entryOf (tag : Fields) : Fields := [
  ("name", fieldOf tag "name"), ("conversion_id", valueFor tag "conversionId"),
  ("conversion_label", valueFor tag "conversionLabel")]

/-- What is found in an export whose parameters can all be looked through that are looked at. -/
def described (found : Export) : Analysis where
  totalTags := found.tags.length
  analyticsConfigs := (tagsOf .analyticsConfig found.tags).length
  analyticsEvents := (tagsOf .analyticsEvent found.tags).length
  conversions := (tagsOf .adsConversion found.tags).length
  variableCount := found.records.length
  triggerCount := found.triggers.length
  identifiers :=
    ((tagsOf .analyticsConfig found.tags ++ tagsOf .analyticsEvent found.tags).map
      identifierOf).foldl addIdentifier []
  adsConversions := (tagsOf .adsConversion found.tags).map entryOf
  recommendations := recommendationsFor found.tags

theorem identifier_eq (tag : Fields) : identifier tag =
    if Obstructive tag then .error (obstruction tag) else .ok (identifierOf tag) := by
  rw [identifier, parameter_eq, parameter_eq, identifierOf, orElse]
  by_cases obstructive : Obstructive tag
  · simp only [if_pos obstructive]
    rfl
  · simp only [if_neg obstructive]
    exact (apply_ite Except.ok _ _ _).symm

theorem conversionOf_eq (tag : Fields) : conversionOf tag =
    if Obstructive tag then .error (obstruction tag) else .ok (entryOf tag) := by
  rw [conversionOf, parameter_eq, parameter_eq]
  by_cases obstructive : Obstructive tag
  · simp only [if_pos obstructive]
    rfl
  · simp only [if_neg obstructive]
    rfl

/-- Where a step fails for some items alone, a list fails for the first of them. -/
theorem mapM_eq {α β : Type} {f : α → Except Fault β} {g : α → β} {bad : α → Prop}
    [DecidablePred bad] {fault : α → Fault}
    (each : ∀ a, f a = if bad a then .error (fault a) else .ok (g a)) (xs : List α) :
    xs.mapM f = match xs.find? (bad ·) with
      | some a => .error (fault a)
      | none => .ok (xs.map g) := by
  induction xs with
  | nil => rfl
  | cons a rest ih =>
    rw [List.mapM_cons, each, ih, List.find?_cons]
    by_cases here : bad a
    · simp only [if_pos here, decide_eq_true here]
      rfl
    · simp only [if_neg here, decide_eq_false here]
      cases rest.find? (bad ·) <;> rfl

/-- The parameters of every tag that is looked at can be looked through. -/
def Inspectable (found : Export) : Prop :=
  ∀ tag ∈ found.tags, ∀ type ∈ inspectedTypes, typeName? tag = some type.name → ¬Obstructive tag

/-- The first of the tags that are looked at and are in the way. -/
def firstObstructive? (found : Export) : Option Fields :=
  (inspected found.tags).find? (Obstructive ·)

theorem firstObstructive?_eq_none {found : Export} :
    firstObstructive? found = none ↔ Inspectable found := by
  simp only [firstObstructive?, List.find?_eq_none, decide_eq_true_eq, mem_inspected, Inspectable]
  constructor
  · exact fun free tag member type known typed => free tag ⟨member, type, known, typed⟩
  · rintro free tag ⟨member, type, known, typed⟩
    exact free tag member type known typed

/-- An export is analysed unless one of the tags that are looked at is in the way. -/
theorem ofExport_eq (found : Export) : ofExport found =
    match firstObstructive? found with
    | some tag => .error (obstruction tag)
    | none => .ok (described found) := by
  have tags : inspected found.tags = (tagsOf .analyticsConfig found.tags ++
      tagsOf .analyticsEvent found.tags) ++ tagsOf .adsConversion found.tags := by
    simp [inspected, inspectedTypes]
  rw [ofExport, firstObstructive?, tags, List.find?_append]
  simp only [filter_isOf, identifiersOf, mapM_eq identifier_eq, mapM_eq conversionOf_eq]
  cases (tagsOf .analyticsConfig found.tags ++ tagsOf .analyticsEvent found.tags).find?
      (Obstructive ·) with
  | some tag => rfl
  | none => cases (tagsOf .adsConversion found.tags).find? (Obstructive ·) <;> rfl

theorem ofExport_of_inspectable {found : Export} (inspectable : Inspectable found) :
    ofExport found = .ok (described found) := by
  rw [ofExport_eq, firstObstructive?_eq_none.2 inspectable]

end Tags

section Outcomes

/-- Whatever is loaded is analysed. -/
theorem ofSource_outcome (files : FileTree) (source : ExportSource) :
    (ofSource files source).outcome.1 = (Export.load files source).outcome.1.bind ofExport := by
  rw [ofSource, Logged.outcome, run_bind_of_state, Logged.outcome]
  obtain ⟨loaded, after⟩ := StateT.run (ExceptT.run (Export.load files source)) []
  cases loaded <;> rfl

/-- What a text spells is analysed. -/
theorem ofText_outcome (files : FileTree) (text : Text) :
    (ofSource files (.text text)).outcome.1 =
      (Export.ofRead (Json.parse text)).bind ofExport := by
  obtain ⟨after, reads⟩ := Export.ofReading_outcome (Json.parse text) []
  have loads : (Export.load files (.text text)).outcome.1 = Export.ofRead (Json.parse text) :=
    congrArg Prod.fst reads
  rw [ofSource_outcome, loads]

/-- Analysing a text comes to a result exactly if the text spells an export, be it an empty one for
want of sense, and no tag that is looked at has a number or a truth value for its parameters. Then
all that was found is told. Otherwise the reader gave up on the text, or the fault tells of which
kind the parameters of such a tag are. What is compiled can fail in the latter way only. -/
theorem ofText_analysed (files : FileTree) (text : Text) :
    let outcome := (ofSource files (.text text)).outcome.1
    ((∃ analysis, outcome = .ok analysis) ↔
      ∃ found, Export.ofRead (Json.parse text) = .ok found ∧ Inspectable found) ∧
    (∀ analysis, outcome = .ok analysis → ∃ found,
      Export.ofRead (Json.parse text) = .ok found ∧ analysis = described found) ∧
    (∀ fault, outcome = .error fault →
      (∃ problem, Json.parse text = .error problem ∧ fault = .json problem) ∨
      ∃ found, Export.ofRead (Json.parse text) = .ok found ∧
        ∃ tag, firstObstructive? found = some tag ∧ fault = obstruction tag) ∧
    ∀ customer compiled,
      (Compilation.ofSource files (.text text) customer).outcome.1 = .ok compiled →
        (∃ analysis, outcome = .ok analysis) ∨ ∃ kind, outcome = .error (.notIterable kind) := by
  intro outcome
  have comes : outcome = (Export.ofRead (Json.parse text)).bind ofExport :=
    ofText_outcome files text
  have compiles (customer : Value) := Compilation.ofText_result files text customer
  simp only [comes, compiles]
  cases read : Export.ofRead (Json.parse text) with
  | error fault =>
    obtain ⟨problem, parsed, rfl⟩ := Export.error_of_ofRead read
    refine ⟨iff_of_false nofun nofun, nofun, ?_, nofun⟩
    rintro _ ⟨⟩
    exact .inl ⟨problem, parsed, rfl⟩
  | ok found =>
    rw [Except.bind, ofExport_eq]
    cases first : firstObstructive? found with
    | none =>
      have inspectable := firstObstructive?_eq_none.mp first
      refine ⟨iff_of_true ⟨_, rfl⟩ ⟨found, rfl, inspectable⟩, ?_, nofun, fun _ _ _ => .inl ⟨_, rfl⟩⟩
      rintro _ ⟨⟩
      exact ⟨found, rfl, rfl⟩
    | some tag =>
      refine ⟨iff_of_false nofun ?_, nofun, ?_, fun _ _ _ => .inr ⟨_, rfl⟩⟩
      · rintro ⟨_, ⟨⟩, inspectable⟩
        cases first.symm.trans (firstObstructive?_eq_none.mpr inspectable)
      rintro _ ⟨⟩
      exact .inr ⟨found, rfl, tag, first, rfl⟩

end Outcomes

section Refusing

open Json

/-- A tag with a number for its parameters keeps an export from being analysed that compiles. -/
theorem ofText_refused :
    let text : Text := "\x7b\"tag\": [\x7b\"type\": \"gaawc\", \"parameter\": 5\x7d]\x7d"
    let analysed (text : Text) := (ofSource .empty (.text text)).outcome.1
    let compiled (text : Text) :=
      (Compilation.ofSource .empty (.text text) (.string "acme")).outcome.1
    (∃ compilation, compiled text = .ok compilation) ∧
      analysed text = .error (.notIterable .int) ∧
      (¬∀ text, ∃ analysis, analysed text = .ok analysis) ∧
      ¬∀ text, (∃ compilation, compiled text = .ok compilation) →
        ∃ analysis, analysed text = .ok analysis := by
  intro text analysed compiled
  let tag : Fields := [("type", .string "gaawc"), ("parameter", .int 5)]
  let document : Fields := [("tag", .array [.object tag])]
  have legibleTag : Legible Limits.standard 984 (.object tag) :=
    .object 983 _ (List.forall_mem_cons.mpr ⟨.string 983 _,
      List.forall_mem_singleton.mpr (.int 983 5 (scalarText_int (by decide)))⟩)
  have legible : Legible Limits.standard 986 (.object document) :=
    .object 985 _ (List.forall_mem_singleton.mpr
      (.array 984 _ (List.forall_mem_singleton.mpr legibleTag)))
  have spelled : text = print .line (.object document) := by decide +kernel
  have parsed : Json.parse text = .ok (.object document) := by
    rw [spelled, parse_print rfl rfl legible]
    rfl
  have compiles := Compilation.ofText_result .empty text (.string "acme")
  have fails := ofText_outcome .empty text
  rw [parsed] at compiles fails
  have sound : ∃ compilation, compiled text = .ok compilation := ⟨_, compiles.trans rfl⟩
  have refused : analysed text = .error (.notIterable .int) := fails.trans rfl
  refine ⟨sound, refused, fun always => ?_, fun always => ?_⟩
  · obtain ⟨analysis, returns⟩ := always text
    cases refused.symm.trans returns
  · obtain ⟨analysis, returns⟩ := always text sound
    cases refused.symm.trans returns

end Refusing

end Analysis

end ConversionRelay
