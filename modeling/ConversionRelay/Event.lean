import ConversionRelay.Clock
import ConversionRelay.Fault
import ConversionRelay.Json.Printer
/-!
Incoming events and entries of the event log.

An event has a name and the data layer that was captured with it. A request may spell both keys in
either of two ways; a name that does not count as present is none. A log entry says which platforms
an event reached.
-/
namespace ConversionRelay

/-- An event with its data layer. -/
structure EventData where
  name : Value
  layer : Value

namespace EventData

/-- The name of an event in a request. -/
def nameIn (request : Fields) : Value :=
  (Value.fieldOf request "eventName").orElse (Value.fieldOf request "event_name")

/-- The data layer in a request. The second spelling counts only where the first is absent. -/
def layerIn (request : Fields) : Value :=
  let given := match OrderedMap.lookup? request "dataLayer" with
    | some layer => layer
    | none => Value.fieldOf request "data_layer"
  given.orElse (.object [])

/-- Read an event from a request. -/
def ofRequest : Value → Except Fault EventData
  | .object request =>
    if (nameIn request).isTruthy then .ok ⟨nameIn request, layerIn request⟩
    else .error .eventWithoutName
  | other => .error (.lacks other.kind "get")

end EventData

/-- An entry of the event log. -/
structure LogEntry where
  customer : Value
  event : Value
  /-- The platforms that took the event, in order. -/
  platforms : List Text
  sentAt : Instant

/-- An entry as a row of the log. -/
def LogEntry.row (entry : LogEntry) : Fields := [
  ("customer_id", entry.customer),
  ("event_name", entry.event),
  ("platforms_sent", .string (Json.print .line (.array (entry.platforms.map .string)))),
  ("sent_at", .string entry.sentAt.text)]

end ConversionRelay
