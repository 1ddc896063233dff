import ConversionRelay.Config.Basic
import ConversionRelay.Fault
import ConversionRelay.Json.Bytes
import ConversionRelay.Json.Parser
import ConversionRelay.Json.Printer
/-!
The wire format of configurations.

Decoding accepts an object with a customer. Events and mappings that are absent, or that do not
count as present, are empty; platforms that are null are left out. Whatever else does not fit is
refused with the rule it breaks. Encoding writes every field.

Main statements: encoding and decoding a mapping undo each other (`mappingsOf_encodeMappings`),
hence so do encoding and decoding an event (`EventConfig.decode_encode`).
-/
namespace ConversionRelay

/-- The mappings of platforms as a value. -/
def encodeMappings (mappings : PlatformMappings) : Fields :=
  mappings.map fun entry => (entry.1, .object entry.2)

/-- The mappings of platforms, of which null ones are left out. -/
def mappingsOf : Fields → Except ConfigProblem PlatformMappings
  | [] => .ok []
  | (_, .null) :: rest => mappingsOf rest
  | (platform, .object mapping) :: rest => (mappingsOf rest).map ((platform, mapping) :: ·)
  | (platform, _) :: _ => .error (.mappingNotObject platform)

namespace EventConfig

/-- The wire format of an event. -/
def encode (event : EventConfig) : Value :=
  .object [("eventName", event.name), ("platformMappings", .object (encodeMappings event.mappings))]

/-- The event whose name and mappings are given. -/
def ofMappings (name mappings : Value) : Except ConfigProblem EventConfig :=
  if mappings.isTruthy then
    match mappings with
    | .object fields => (mappingsOf fields).map (⟨name, ·⟩)
    | _ => .error (.mappingsNotObject name)
  else .ok ⟨name, []⟩

/-- Read an event. -/
def decode : Value → Except ConfigProblem EventConfig
  | .object fields =>
    match OrderedMap.lookup? fields "eventName" with
    | some name => ofMappings name (Value.fieldOf fields "platformMappings")
    | none => .error .missingEventName
  | _ => .error .missingEventName

end EventConfig

namespace CustomerConfig

/-- The wire format of a configuration. -/
def encode (config : CustomerConfig) : Value :=
  .object [
    ("customerId", config.customerId),
    ("containerId", config.containerId),
    ("events", .array (config.events.map EventConfig.encode)),
    ("version", config.version)]

/-- Read the list of events. -/
def decodeEvents (events : Value) : Except ConfigProblem (List EventConfig) :=
  if events.isTruthy then
    match events with
    | .array items => items.mapM EventConfig.decode
    | _ => .error .eventsNotList
  else .ok []

/-- Read a configuration. -/
def decode : Value → Except ConfigProblem CustomerConfig
  | .object fields =>
    match OrderedMap.lookup? fields "customerId" with
    | none => .error .missingCustomer
    | some customer =>
      (decodeEvents (Value.fieldOf fields "events")).map fun events =>
        { customerId := customer
          containerId := (OrderedMap.lookup? fields "containerId").getD customer
          events
          version := (OrderedMap.lookup? fields "version").getD (.string currentVersion) }
  | other => .error (.notObject other.kind)

/-- The text of a configuration in a layout. -/
def write (layout : Json.Layout) (config : CustomerConfig) : Text :=
  Json.print layout config.encode

/-- The text of a configuration as it is stored. -/
def stored (config : CustomerConfig) : Text := config.write .line

/-- Read what a text of JSON spells, if it could be read. -/
def decodeReading : Except Json.ReadError Value → Except Fault CustomerConfig
  | .ok document => (decode document).mapError .config
  | .error (.malformed problem) => .error (.config (.unreadable problem))
  | .error other => .error (.json other)

/-- Read a text. -/
def ofText (text : Text) : Except Fault CustomerConfig := decodeReading (Json.parse text)

/-- Read bytes in the encoding that they announce. -/
def ofBytes (bytes : List UInt8) : Except Fault CustomerConfig :=
  match Json.decodeBytes bytes with
  | .ok text => decodeReading (Json.parseDecoded .standard text)
  | .error problem => .error (.undecodable problem)

/-- Read a stored document; only a text can be read. -/
def ofStored : Value → Except Fault CustomerConfig
  | .string text => ofText text
  | other => .error (.notText other.kind)

/-- Whether two configurations are interchangeable. -/
def same (a b : CustomerConfig) : Bool := a.encode.same b.encode

end CustomerConfig

/-- Encoding and decoding mappings undo each other. -/
theorem mappingsOf_encodeMappings (mappings : PlatformMappings) :
    mappingsOf (encodeMappings mappings) = .ok mappings := by
  induction mappings with
  | nil => rfl
  | cons entry rest ih =>
    have step : encodeMappings (entry :: rest) =
        (entry.1, .object entry.2) :: encodeMappings rest := rfl
    rw [step, mappingsOf, ih]
    rfl

/-- Encoding and decoding an event undo each other. -/
theorem EventConfig.decode_encode (event : EventConfig) : decode event.encode = .ok event := by
  have differ : (Text.ofString "eventName" == Text.ofString "platformMappings") = false := by
    decide
  simp only [encode, decode, OrderedMap.lookup?_cons, Value.fieldOf, differ, beq_self_eq_true, if_true,
    ofMappings, mappingsOf_encodeMappings, Option.getD_some, Bool.false_eq_true, if_false]
  split
  · rfl
  · rename_i absent
    have none : event.mappings = [] := by
      simpa [Value.isTruthy, encodeMappings] using absent
    cases event
    simp_all

end ConversionRelay
