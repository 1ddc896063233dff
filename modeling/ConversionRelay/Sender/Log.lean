import ConversionRelay.Json.Printer
import ConversionRelay.Sender.Basic
/-!
Senders that write payloads to the operator log instead of calling a platform.

Each platform has its own shape of payload. The line holds the platform and the payload in canonical
form, so that equal payloads make equal lines.

Main statement: writing a payload always succeeds (`LogSender.send_succeeds`).
-/
namespace ConversionRelay.LogSender

variable {ω : Type}

/-- The payload of a platform. Facebook takes the fields at the top, where they may even replace the
name and the time of the event; the others take them under a key of their own. -/
def payload (platform : Platform) (time : Instant) (event : Value) (fields : Fields) : Fields :=
  match platform with
  | .facebook =>
    OrderedMap.update [("event_name", event), ("event_time", .int time.unixSeconds)] fields
  | .ga4 => [("event_name", event), ("params", .object fields)]
  | .googleAds => [("event_name", event), ("payload", .object fields)]

/-- The line that a payload makes. -/
def line (platform : Platform) (payload : Value) : Text :=
  Json.print .canonical (.object [("platform", .string platform.key), ("payload", payload)])

/-- Write a payload to the log. -/
def send (platform : Platform) (payload : Value) : Run ω SendOutcome := do
  Run.log .info .senders (line platform payload)
  return .taken platform

/-- The log sender of a platform. -/
def sender (platform : Platform) : Sender ω :=
  { build := fun event fields => do return payload platform (← Run.clock) event fields
    send := send platform }

/-- Writing a payload always succeeds. -/
theorem send_succeeds (platform : Platform) (payload : Value) (s : Session ω) :
    ((send platform payload : Run ω SendOutcome).outcome s).1 = .ok (.taken platform) := rfl

end ConversionRelay.LogSender
