import ConversionRelay.Fault
import ConversionRelay.Number.Decimal
import ConversionRelay.Text.Case
import ConversionRelay.Text.Numeral
import ConversionRelay.Text.Pieces
/-!
Settings of the program.

Settings name the project and the dataset of the warehouse, and carry the credentials of the
platforms. A platform is enabled if both of its credentials are there and not empty. Settings come
from environment variables, or from the fields of an object whose values are converted where that is
safe. The two secrets are left out when settings are shown.

Main statement: without its token a platform is not enabled (`Settings.metaEnabled_eq_false`).
-/
namespace ConversionRelay

/-- The dataset that is used if none is named. -/
def defaultDataset : Text := "growthnav_registry"

/-- The version of the Meta interface that is used if none is named. -/
def defaultMetaVersion : Text := "v18.0"

/-- The seconds that a request may take if nothing else is said. -/
def defaultTimeout : Binary64 := Binary64.ofInt 10

/-- The settings of the program. -/
structure Settings where
  project : Option Text
  dataset : Text
  metaToken : Option Text
  metaPixel : Option Text
  metaVersion : Text
  ga4Id : Option Text
  ga4Secret : Option Text
  ga4Debug : Bool
  timeout : Binary64

namespace Settings

/-- Settings in which nothing is set. -/
def standard : Settings :=
  { project := none
    dataset := defaultDataset
    metaToken := none
    metaPixel := none
    metaVersion := defaultMetaVersion
    ga4Id := none
    ga4Secret := none
    ga4Debug := false
    timeout := defaultTimeout }

/-- A text that is there and not empty. -/
def present? : Option Text → Option Text
  | some [] => none
  | given => given

/-- Both credentials of Meta, if it is enabled. -/
def metaCredentials? (settings : Settings) : Option (Text × Text) :=
  (present? settings.metaToken).bind fun token =>
    (present? settings.metaPixel).map fun pixel => (token, pixel)

/-- Both credentials of GA4, if it is enabled. -/
def ga4Credentials? (settings : Settings) : Option (Text × Text) :=
  (present? settings.ga4Id).bind fun id =>
    (present? settings.ga4Secret).map fun secret => (id, secret)

/-- Whether events are sent to Meta. -/
def metaEnabled (settings : Settings) : Bool := settings.metaCredentials?.isSome

/-- Whether events are sent to GA4. -/
def ga4Enabled (settings : Settings) : Bool := settings.ga4Credentials?.isSome

section Environment

/-- Environment variables. -/
abbrev Environment := OrderedMap Text Text

/-- The words that switch a flag on. -/
def affirmations : List Text := ["1", "true", "yes", "on"]

/-- Whether a text switches a flag on. -/
def isAffirmation (text : Text) : Bool :=
  affirmations.contains (Text.lower (Text.trim text))

/-- The number that a text denotes. -/
def numberOf (text : Text) : Except Fault Binary64 :=
  match Text.readNumber text with
  | some x => .ok x
  | none => .error (.notNumber text)

/-- Read settings from environment variables. -/
def ofEnvironment (env : Environment) : Except Fault Settings :=
  let get (name : Text) : Option Text := OrderedMap.lookup? env name
  (numberOf ((get "GROWTNAV_SEND_TIMEOUT").getD "10")).map fun timeout =>
    { project :=
        match present? (get "GCP_PROJECT_ID") with
        | some project => some project
        | none => get "GROWTNAV_PROJECT_ID"
      dataset := (get "GROWTNAV_TRACKING_DATASET").getD defaultDataset
      metaToken := get "META_ACCESS_TOKEN"
      metaPixel := get "META_PIXEL_ID"
      metaVersion := (get "META_API_VERSION").getD defaultMetaVersion
      ga4Id := get "GA4_MEASUREMENT_ID"
      ga4Secret := get "GA4_API_SECRET"
      ga4Debug := isAffirmation ((get "GA4_DEBUG").getD "")
      timeout }

end Environment

section Conversion

/-- A text. -/
def toText : Value → Except Fault Text
  | .string text => .ok text
  | _ => .error .badSetting

/-- A text or nothing. -/
def toOptionalText : Value → Except Fault (Option Text)
  | .null => .ok none
  | other => (toText other).map some

/-- The words for both truth values, in any case. -/
def flagWords : List (Bool × List Text) := [
  (false, ["0", "off", "f", "false", "n", "no"]),
  (true, ["1", "on", "t", "true", "y", "yes"])]

/-- A truth value, or a number or a word for one. -/
def toFlag : Value → Except Fault Bool
  | .bool b => .ok b
  | .string text =>
    let word := text.map CodePoint.plainLower
    match flagWords.find? fun entry => entry.2.contains word with
    | some entry => .ok entry.1
    | none => .error .badSetting
  | other =>
    if other.equal (.int 0) then .ok false
    else if other.equal (.int 1) then .ok true
    else .error .badSetting

/-- A number that is finite. -/
def finite (x : Binary64) : Except Fault Binary64 :=
  if x.isFinite then .ok x else .error .badSetting

/-- A binary number, or a text for one, or another number unless it is beyond every finite one. -/
def toNumber : Value → Except Fault Binary64
  | .double x => .ok x
  | .int n => finite (Binary64.ofInt n)
  | .bool b => .ok (Binary64.ofInt (if b then 1 else 0))
  | .string text =>
    match Text.readStrictNumber text with
    | some x => .ok x
    | none => .error .badSetting
  | _ => .error .badSetting

/-- Convert a field, or take what stands for its absence. -/
def fieldOr {α : Type} (fields : Fields) (name : Text) (convert : Value → Except Fault α)
    (absent : α) : Except Fault α :=
  match OrderedMap.lookup? fields name with
  | some given => convert given
  | none => .ok absent

/-- Read settings from the fields of an object. -/
def ofFields (fields : Fields) : Except Fault Settings := do
  let project ← fieldOr fields "project_id" toOptionalText standard.project
  let dataset ← fieldOr fields "dataset" toText standard.dataset
  let metaToken ← fieldOr fields "meta_access_token" toOptionalText standard.metaToken
  let metaPixel ← fieldOr fields "meta_pixel_id" toOptionalText standard.metaPixel
  let metaVersion ← fieldOr fields "meta_api_version" toText standard.metaVersion
  let ga4Id ← fieldOr fields "ga4_measurement_id" toOptionalText standard.ga4Id
  let ga4Secret ← fieldOr fields "ga4_api_secret" toOptionalText standard.ga4Secret
  let ga4Debug ← fieldOr fields "ga4_debug" toFlag standard.ga4Debug
  let timeout ← fieldOr fields "send_timeout" toNumber standard.timeout
  return {
    project, dataset, metaToken, metaPixel, metaVersion, ga4Id, ga4Secret, ga4Debug, timeout }

end Conversion

section Presentation

/-- All settings as fields. -/
def fields (settings : Settings) : Fields := [
  ("project_id", .ofText settings.project),
  ("dataset", .string settings.dataset),
  ("meta_access_token", .ofText settings.metaToken),
  ("meta_pixel_id", .ofText settings.metaPixel),
  ("meta_api_version", .string settings.metaVersion),
  ("ga4_measurement_id", .ofText settings.ga4Id),
  ("ga4_api_secret", .ofText settings.ga4Secret),
  ("ga4_debug", .bool settings.ga4Debug),
  ("send_timeout", .double settings.timeout)]

/-- The settings that are never shown. -/
def secrets : List Text := ["meta_access_token", "ga4_api_secret"]

/-- Settings as they are shown. -/
def shown (settings : Settings) : Text :=
  let visible := settings.fields.filter fun field => !secrets.contains field.1
  let texts : List Text := visible.map fun field => field.1 ++ "=" ++ field.2.literal
  "TrackingSettings(" ++ Text.join ", " texts ++ ")"

end Presentation

/-- Without a token Meta is not enabled. -/
theorem metaEnabled_eq_false {settings : Settings} (h : present? settings.metaToken = none) :
    settings.metaEnabled = false := by
  simp [metaEnabled, metaCredentials?, h]

end Settings

end ConversionRelay
