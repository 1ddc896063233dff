import ConversionRelay.Container.Analysis
import ConversionRelay.Proofs.Value.Rearrangement
/-!
Analyses of exports that list fields in different orders.

What an analysis asks of a tag, it asks by key, and it compares what it finds as values. So tags
that are rearranged give rise to the same counts and recommendations, and to the same identifiers
and conversions up to the order of fields inside them, or to the same failure.

Main statement: exports with rearranged tags are analysed alike (`Analysis.ofExport_rearranged`).
-/
namespace ConversionRelay

open OrderedMap Value

section Ends

variable {α β γ δ : Type} {R : α → β → Prop} {S : γ → δ → Prop}

/-- Computations that both fail for one reason, or both yield a result, and these are related. -/
inductive EndsAlike (R : α → β → Prop) : Except Fault α → Except Fault β → Prop
  | ok {a : α} {b : β} (related : R a b) : EndsAlike R (.ok a) (.ok b)
  | error (fault : Fault) : EndsAlike R (.error fault) (.error fault)

namespace EndsAlike

variable {x : Except Fault α} {y : Except Fault β}

theorem bind (first : EndsAlike R x y) {f : α → Except Fault γ} {g : β → Except Fault δ}
    (next : ∀ a b, R a b → EndsAlike S (f a) (g b)) : EndsAlike S (x >>= f) (y >>= g) := by
  cases first with
  | ok related => exact next _ _ related
  | error fault => exact .error fault

theorem mono (alike : EndsAlike R x y) {wider : α → β → Prop} (wide : ∀ a b, R a b → wider a b) :
    EndsAlike wider x y := by
  cases alike with
  | ok related => exact .ok (wide _ _ related)
  | error fault => exact .error fault

theorem map (first : EndsAlike R x y) {f : α → γ} {g : β → δ}
    (next : ∀ a b, R a b → S (f a) (g b)) : EndsAlike S (x.map f) (y.map g) := by
  cases first with
  | ok related => exact .ok (next _ _ related)
  | error fault => exact .error fault

theorem mapM {xs : List α} {ys : List β} (related : List.Forall₂ R xs ys)
    {f : α → Except Fault γ} {g : β → Except Fault δ}
    (each : ∀ a b, R a b → EndsAlike S (f a) (g b)) :
    EndsAlike (List.Forall₂ S) (xs.mapM f) (ys.mapM g) := by
  induction related with
  | nil => exact .ok .nil
  | cons first _ ih =>
    rw [List.mapM_cons, List.mapM_cons]
    refine .bind (each _ _ first) fun c d found => ?_
    exact .bind ih fun cs ds others => .ok (.cons found others)

end EndsAlike

end Ends

namespace Analysis

/-- Tags whose objects list fields in different orders. -/
abbrev SameFields (tag other : Fields) : Prop := Rearranged (.object tag) (.object other)

variable {tag other : Fields} {tags others : List Fields}

section Parameters

theorem parameterValue?_rearranged {v w : Value} (rearranged : Rearranged v w) (key : Text) :
    Option.Rel Rearranged (parameterValue? key v) (parameterValue? key w) := by
  obtain ⟨flat, rfl⟩ | ⟨xs, ys, rfl, rfl, _⟩ | ⟨fields, fields', rfl, rfl, own⟩ :=
    rearranged.shapes
  · cases v with
    | object => cases flat
    | _ => exact .none
  · exact .none
  · rw [parameterValue?, parameterValue?, (own.fieldOf "key").equal_string_eq]
    split
    · exact .some (own.fieldOf "value")
    · exact .none

/-- A text is no parameter. -/
theorem findSome?_parameterValue?_texts {α : Type} (key : Text) (word : α → Text) (xs : List α) :
    (xs.map fun x => Value.string (word x)).findSome? (parameterValue? key) = none := by
  rw [List.findSome?_eq_none_iff]
  intro v member
  obtain ⟨x, _, rfl⟩ := List.mem_map.mp member
  rfl

theorem parameter_rearranged (rearranged : SameFields tag other) (key : Text) :
    EndsAlike Rearranged (parameter tag key) (parameter other key) := by
  have parameters := rearranged.fieldOf "parameter"
  unfold parameter
  dsimp only
  rw [parameters.isTruthy_eq]
  split
  · generalize fieldOf tag "parameter" = p, fieldOf other "parameter" = q at parameters ⊢
    obtain ⟨flat, rfl⟩ | ⟨xs, ys, rfl, rfl, items⟩ | ⟨_, _, rfl, rfl, _⟩ := parameters.shapes
    · cases p with
      | array => cases flat
      | object => cases flat
      | string s =>
        simp only [elements?, findSome?_parameterValue?_texts]
        exact .ok .null
      | _ => exact .error _
    · have found := Rearranged.findSome? items fun _ _ each => parameterValue?_rearranged each key
      simp only [elements?]
      refine .ok ?_
      generalize xs.findSome? (parameterValue? key) = a, ys.findSome? (parameterValue? key) = b
        at found ⊢
      cases found with
      | some related => exact related
      | none => exact .null
    · simp only [elements?, findSome?_parameterValue?_texts]
      exact .ok .null
  · exact .ok .null

theorem isOf_rearranged (type : TagType) (rearranged : SameFields tag other) :
    type.isOf tag = type.isOf other :=
  (rearranged.fieldOf "type").equal_string_eq type.name

theorem filter_rearranged (type : TagType) (rearranged : List.Forall₂ SameFields tags others) :
    List.Forall₂ SameFields (tags.filter type.isOf) (others.filter type.isOf) :=
  List.rel_filter (fun _ _ own => iff_of_eq (congrArg (· = true) (isOf_rearranged type own)))
    rearranged

end Parameters

section Findings

theorem identifier_rearranged (rearranged : SameFields tag other) :
    EndsAlike Rearranged (identifier tag) (identifier other) := by
  refine .bind (parameter_rearranged rearranged _) fun own own' same => ?_
  rw [same.isTruthy_eq]
  split
  · exact .ok same
  · exact parameter_rearranged rearranged _

theorem addIdentifier_rearranged {listed listed' : List Value} {new new' : Value}
    (before : List.Forall₂ Rearranged listed listed') (added : Rearranged new new') :
    List.Forall₂ Rearranged (addIdentifier listed new) (addIdentifier listed' new') := by
  have known : listed.any new.same = listed'.any new'.same := by
    induction before with
    | nil => rfl
    | cons first _ ih => rw [List.any_cons, List.any_cons, added.same_congr _ _ first, ih]
  rw [addIdentifier, addIdentifier, added.isTruthy_eq, known]
  split
  · exact List.rel_append before (.cons added .nil)
  · exact before

theorem addIdentifiers_rearranged {listed listed' added added' : List Value}
    (before : List.Forall₂ Rearranged listed listed')
    (new : List.Forall₂ Rearranged added added') :
    List.Forall₂ Rearranged (added.foldl addIdentifier listed)
      (added'.foldl addIdentifier listed') := by
  induction new generalizing listed listed' with
  | nil => exact before
  | cons first _ ih => exact ih (addIdentifier_rearranged before first)

theorem identifiersOf_rearranged (rearranged : List.Forall₂ SameFields tags others) :
    EndsAlike (List.Forall₂ Rearranged) (identifiersOf tags) (identifiersOf others) :=
  (EndsAlike.mapM rearranged fun _ _ => identifier_rearranged).map fun _ _ found =>
    addIdentifiers_rearranged .nil found

theorem conversionOf_rearranged (rearranged : SameFields tag other) :
    EndsAlike SameFields (conversionOf tag) (conversionOf other) := by
  have names : (["name", "conversion_id", "conversion_label"] : List Text).Nodup := by decide
  refine .bind (parameter_rearranged rearranged _) fun id id' sameId => ?_
  refine .bind (parameter_rearranged rearranged _) fun label label' sameLabel => .ok ?_
  exact .of_fields names (.cons ⟨rfl, rearranged.fieldOf "name"⟩
    (.cons ⟨rfl, sameId⟩ (.cons ⟨rfl, sameLabel⟩ .nil)))

theorem any_rearranged {property : Fields → Bool} (rearranged : List.Forall₂ SameFields tags others)
    (each : ∀ tag other, SameFields tag other → property tag = property other) :
    tags.any property = others.any property := by
  induction rearranged with
  | nil => rfl
  | cons first _ ih => rw [List.any_cons, List.any_cons, each _ _ first, ih]

theorem recommendationsFor_rearranged (rearranged : List.Forall₂ SameFields tags others) :
    recommendationsFor tags = recommendationsFor others := by
  have paused := any_rearranged rearranged fun _ _ own => (own.fieldOf "paused").isTruthy_eq
  have html := any_rearranged rearranged fun _ _ => isOf_rearranged .customHtml
  have linker := any_rearranged rearranged fun _ _ => isOf_rearranged .conversionLinker
  rw [recommendationsFor, recommendationsFor, paused, html, linker]

end Findings

/-- Analyses that differ at most in the order of fields inside identifiers and conversions. -/
structure Rearranged (a b : Analysis) : Prop where
  totalTags : a.totalTags = b.totalTags
  analyticsConfigs : a.analyticsConfigs = b.analyticsConfigs
  analyticsEvents : a.analyticsEvents = b.analyticsEvents
  conversions : a.conversions = b.conversions
  variableCount : a.variableCount = b.variableCount
  triggerCount : a.triggerCount = b.triggerCount
  identifiers : List.Forall₂ Value.Rearranged a.identifiers b.identifiers
  adsConversions : List.Forall₂ SameFields a.adsConversions b.adsConversions
  recommendations : a.recommendations = b.recommendations

theorem Rearranged.document {a b : Analysis} (rearranged : Rearranged a b) :
    Value.Rearranged a.document b.document := by
  have names : (["stats", "measurement_ids", "ads_conversions", "recommendations"] :
      List Text).Nodup := by decide
  have counts : (["total_tags", "ga4_configs", "ga4_events", "google_ads", "variables",
      "triggers"] : List Text).Nodup := by decide
  rw [Analysis.document, Analysis.document, rearranged.totalTags, rearranged.analyticsConfigs,
    rearranged.analyticsEvents, rearranged.conversions, rearranged.variableCount,
    rearranged.triggerCount, rearranged.recommendations]
  refine .of_fields names
    (.cons ⟨rfl, ?_⟩ (.cons ⟨rfl, ?_⟩ (.cons ⟨rfl, ?_⟩ (.cons ⟨rfl, ?_⟩ .nil))))
  · exact .refl_of_flat counts (by simp [isKey])
  · exact .of_items rearranged.identifiers
  · refine .of_items (List.forall₂_map_left_iff.mpr (List.forall₂_map_right_iff.mpr ?_))
    exact rearranged.adsConversions
  · refine .of_items (List.forall₂_same.mpr fun advice member => ?_)
    obtain ⟨text, _, rfl⟩ := List.mem_map.mp member
    exact .plain rfl

/-- Exports with rearranged tags and as many records and triggers are analysed alike. -/
theorem ofExport_rearranged {found found' : Export}
    (tags : List.Forall₂ SameFields found.tags found'.tags)
    (records : found.records.length = found'.records.length)
    (triggers : found.triggers.length = found'.triggers.length) :
    EndsAlike Rearranged (ofExport found) (ofExport found') := by
  have configs := filter_rearranged .analyticsConfig tags
  have events := filter_rearranged .analyticsEvent tags
  have ads := filter_rearranged .adsConversion tags
  refine .bind (identifiersOf_rearranged (List.rel_append configs events))
    fun identifiers identifiers' same => ?_
  refine .bind (.mapM ads fun _ _ => conversionOf_rearranged) fun listed listed' same' => .ok ?_
  exact ⟨tags.length_eq, configs.length_eq, events.length_eq, ads.length_eq, records, triggers,
    same, same', recommendationsFor_rearranged tags⟩

end Analysis

end ConversionRelay
