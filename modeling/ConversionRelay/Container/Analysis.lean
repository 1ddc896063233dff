import ConversionRelay.Container.Export
/-!
A summary of the tracking that a container already does.

Tags are told apart by type. The measurement identifiers of the two types of analytics tags are
collected, configurations before events, each identifier once; advertising conversions are listed
with their labels; and three conditions of the tags give rise to recommendations.

Main statement: only identifiers that count as present are listed (`isTruthy_of_mem_addIdentifier`).
-/
namespace ConversionRelay

/-- The types of tags that an analysis looks at. -/
inductive TagType where
  | analyticsConfig
  | analyticsEvent
  | adsConversion
  | conversionLinker
  | customHtml
  deriving DecidableEq, Repr

/-- The name of a type in an export. -/
def TagType.name : TagType → Text
  | analyticsConfig => "gaawc"
  | analyticsEvent => "gaawe"
  | adsConversion => "awct"
  | conversionLinker => "gcl"
  | customHtml => "html"

/-- Whether a tag is of a type. -/
def TagType.isOf (type : TagType) (tag : Fields) : Bool :=
  (Value.fieldOf tag "type").equal (.string type.name)

/-- What an analysis finds. -/
structure Analysis where
  totalTags : Nat
  analyticsConfigs : Nat
  analyticsEvents : Nat
  conversions : Nat
  variableCount : Nat
  triggerCount : Nat
  identifiers : List Value
  adsConversions : List Fields
  recommendations : List Text

namespace Analysis

/-- The value of a parameter if it has the key. -/
def parameterValue? (key : Text) : Value → Option Value
  | .object fields =>
    if (Value.fieldOf fields "key").equal (.string key) then some (Value.fieldOf fields "value")
    else none
  | _ => none

/-- The value of the first parameter of a tag with a key, null if there is none. -/
def parameter (tag : Fields) (key : Text) : Except Fault Value :=
  let parameters := Value.fieldOf tag "parameter"
  if parameters.isTruthy then
    match parameters.elements? with
    | some elements => .ok (Value.ofOption (elements.findSome? (parameterValue? key)))
    | none => .error (.notIterable parameters.kind)
  else .ok .null

/-- The measurement identifier of a tag. -/
def identifier (tag : Fields) : Except Fault Value := do
  let own ← parameter tag "measurementId"
  if own.isTruthy then return own else parameter tag "measurementIdOverride"

/-- Add an identifier that counts as present and is not listed yet. -/
def addIdentifier (listed : List Value) (new : Value) : List Value :=
  if new.isTruthy && !listed.any new.same then listed ++ [new] else listed

/-- The measurement identifiers of tags, each once. -/
def identifiersOf (tags : List Fields) : Except Fault (List Value) :=
  (tags.mapM identifier).map (·.foldl addIdentifier [])

/-- The entry of an advertising conversion. -/
def conversionOf (tag : Fields) : Except Fault Fields := do
  let id ← parameter tag "conversionId"
  let label ← parameter tag "conversionLabel"
  return [
    ("name", Value.fieldOf tag "name"), ("conversion_id", id), ("conversion_label", label)]

/-- What is recommended when a tag is paused. -/
def pausedAdvice : Text := "Remove or resume paused tags to clean up the container."

/-- What is recommended when a tag holds markup of its own. -/
def customHtmlAdvice : Text :=
  "Custom HTML tags detected. Consider migrating these to server-side " ++
    "logic for better security and performance."

/-- What is recommended when no tag links conversions. -/
def linkerAdvice : Text :=
  "CRITICAL: No Conversion Linker tag found. GCLID preservation will fail without it."

/-- The recommendations that tags give rise to. -/
def recommendationsFor (tags : List Fields) : List Text :=
  (if tags.any fun tag => (Value.fieldOf tag "paused").isTruthy then [pausedAdvice] else []) ++
  (if tags.any TagType.customHtml.isOf then [customHtmlAdvice] else []) ++
  (if tags.any TagType.conversionLinker.isOf then [] else [linkerAdvice])

/-- Analyse an export. -/
def ofExport (found : Export) : Except Fault Analysis := do
  let tags := found.tags
  let configs := tags.filter TagType.analyticsConfig.isOf
  let events := tags.filter TagType.analyticsEvent.isOf
  let ads := tags.filter TagType.adsConversion.isOf
  let identifiers ← identifiersOf (configs ++ events)
  let adsConversions ← ads.mapM conversionOf
  return {
    totalTags := tags.length
    analyticsConfigs := configs.length
    analyticsEvents := events.length
    conversions := ads.length
    variableCount := found.records.length
    triggerCount := found.triggers.length
    identifiers
    adsConversions
    recommendations := recommendationsFor tags }

/-- Analyse the export that comes from a source. -/
def ofSource (files : FileTree) (source : ExportSource) : Logged Analysis := do
  Logged.ofExcept (ofExport (← Export.load files source))

/-- An analysis as a document. -/
def document (analysis : Analysis) : Value :=
  .object [
    ("stats", .object [
      ("total_tags", .int analysis.totalTags),
      ("ga4_configs", .int analysis.analyticsConfigs),
      ("ga4_events", .int analysis.analyticsEvents),
      ("google_ads", .int analysis.conversions),
      ("variables", .int analysis.variableCount),
      ("triggers", .int analysis.triggerCount)]),
    ("measurement_ids", .array analysis.identifiers),
    ("ads_conversions", .array (analysis.adsConversions.map .object)),
    ("recommendations", .array (analysis.recommendations.map .string))]

/-- Every identifier that is listed counts as present. -/
theorem isTruthy_of_mem_addIdentifier {listed : List Value} {new : Value}
    (present : ∀ v ∈ listed, v.isTruthy = true) :
    ∀ v ∈ addIdentifier listed new, v.isTruthy = true := by
  unfold addIdentifier
  split
  · rename_i h
    intro v member
    rcases List.mem_append.mp member with old | added
    · exact present v old
    · have : v = new := by simpa using added
      subst this
      exact (Bool.and_eq_true _ _ ▸ h).1
  · exact present

end Analysis

end ConversionRelay
