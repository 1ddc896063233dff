import ConversionRelay.Value
/-!
Tracking configurations.

A configuration belongs to one customer. For every event it says which platforms are told and, for
each of them, which fields of the payload are read from which paths of the data layer. Names,
identifiers and paths are texts wherever the configuration was generated here; one that was stored
by someone else may hold any value in their place.
-/
namespace ConversionRelay

/-- The version that new configurations carry. -/
def currentVersion : Text := "1.0.0"

/-- The currency of a purchase that has a value but no currency. -/
def defaultCurrency : Text := "USD"

/-- The platforms that events are sent to. -/
inductive Platform where
  | facebook
  | ga4
  | googleAds
  deriving DecidableEq, Repr

/-- The key of a platform in configurations and results. -/
def Platform.key : Platform → Text
  | facebook => "facebook"
  | ga4 => "ga4"
  | googleAds => "googleAds"

/-- The paths of the fields of a payload, for each platform by its key. -/
abbrev PlatformMappings := OrderedMap Text Fields

/-- What an event is mapped to. -/
structure EventConfig where
  name : Value
  mappings : PlatformMappings

/-- The configuration of a customer. -/
structure CustomerConfig where
  customerId : Value
  containerId : Value
  events : List EventConfig
  version : Value

namespace CustomerConfig

/-- The first event of a name. -/
def event? (config : CustomerConfig) (name : Value) : Option EventConfig :=
  config.events.find? fun event => event.name.equal name

/-- The names of the events in order. -/
def eventNames (config : CustomerConfig) : List Value := config.events.map EventConfig.name

end CustomerConfig

end ConversionRelay
