import ConversionRelay.Address.Target
import ConversionRelay.Json.Printer
import ConversionRelay.Sender.Basic
/-!
Sending events to the Measurement Protocol of GA4.

The names of generated fields are replaced by those of the protocol. Fields that hold personal data
are dropped before anything else is done with them. A value without a currency is given one. The
protocol asks for an identifier of the client; an event that brings none is given a new one.

Main statement: fields with personal data leave no trace in a payload
(`MeasurementSender.params_filter`).
-/
namespace ConversionRelay

/-- A property of GA4. -/
structure MeasurementAccount where
  measurementId : Text
  secret : Text
  /-- Whether events are only checked and not counted. -/
  debug : Bool
  timeout : Value

namespace MeasurementSender

variable {ω : Type}

/-- The names of generated fields and what the protocol calls them. -/
def aliases : OrderedMap Text Text := [
  ("value_path", "value"),
  ("currency_path", "currency"),
  ("item_id_path", "item_id"),
  ("item_name_path", "item_name")]

/-- What the protocol calls a field. -/
def nameOf (field : Text) : Text := (OrderedMap.lookup? aliases field).getD field

/-- The fields that hold personal data. -/
def personalFields : List Text := ["email_path", "phone_path", "email", "phone"]

/-- Whether a field holds personal data. -/
def isPersonal (field : Text × Value) : Bool := personalFields.contains field.1

/-- Fields under the names of the protocol. -/
def rename (fields : Fields) : Fields :=
  OrderedMap.ofPairs (fields.map fun field => (nameOf field.1, field.2))

/-- The parameters of an event. -/
def params (fields : Fields) : Fields :=
  withCurrency (rename (fields.filter fun field => !isPersonal field))

/-- The payload of an event. -/
def payload (event : Value) (fields : Fields) : Fields :=
  [("event_name", event), ("params", .object (params fields))]

/-- Say which fields are dropped, but never what they hold. -/
def reportDropped (event : Value) (fields : Fields) : Run ω Unit :=
  (fields.filter isPersonal).forM fun field =>
    Run.log .debug .senders ("Dropping " ++ field.1 ++ " from GA4 " ++ event.text ++ " params")

/-- The address of the protocol. -/
def endpoint (account : MeasurementAccount) : Text :=
  if account.debug then "https://www.google-analytics.com/mp/collect/debug"
  else "https://www.google-analytics.com/mp/collect"

/-- The parameters of a payload. In a payload that was not built here their keys may be anything
that can be a key. -/
abbrev Params := OrderedMap Value Value

/-- A pair of a key and a value that an element of a list stands for. -/
def pairOf (position : Nat) (element : Value) : Except Fault (Value × Value) :=
  match element.elements? with
  | none => .error (.notSequence position)
  | some [key, value] => if key.isKey then .ok (key, value) else .error (.notKey key.kind)
  | some other => .error (.notPair position other.length)

/-- The parameters that a value stands for: those of an object, or pairs in a list. -/
def paramsIn : Value → Except Fault Params
  | .object fields => .ok (fields.map fun field => (.string field.1, field.2))
  | other =>
    match other.elements? with
    | none => .error (.notIterable other.kind)
    | some elements =>
      (elements.zipIdx.mapM fun (element, position) => pairOf position element).map
        OrderedMap.ofPairs

/-- The parameters of a payload; none if it does not mention them. -/
def paramsOf : Value → Except Fault Params
  | .object payload => paramsIn ((OrderedMap.lookup? payload "params").getD (.object []))
  | other => .error (.lacks other.kind "get")

/-- The name of the event of a payload. -/
def eventOf : Value → Except Fault Value
  | .object payload =>
    match OrderedMap.lookup? payload "event_name" with
    | some name => .ok name
    | none => .error (.absentField "event_name")
  | other => .error (.lacks other.kind "get")

/-- The key of the identifier of the client. -/
def clientKey : Value := .string "client_id"

/-- The identifier of the client that parameters bring, or a new one. -/
def clientId (params : Params) : Run ω Text :=
  let given := (OrderedMap.lookup? params clientKey).getD .null
  if given.isTruthy then return given.text else Run.freshId

/-- The name that a key becomes in a request: a text is its own name. A number that is not finite
has no name. -/
def keyName : Value → Except Fault Text
  | .string name => .ok name
  | other => if Json.allFinite other then .ok (Json.print .line other) else .error .notFinite

/-- Parameters as fields, without the identifier of the client. -/
def fieldsOf (params : Params) : Except Fault Fields :=
  ((OrderedMap.erase params clientKey).mapM fun entry => (keyName entry.1).map (·, entry.2)).map
    OrderedMap.ofPairs

/-- The body of a request. -/
def body (client : Text) (event : Value) (fields : Fields) : Value :=
  .object [
    ("client_id", .string client),
    ("events", .array [.object [("name", event), ("params", .object fields)]])]

/-- The request that delivers an event. -/
def request (account : MeasurementAccount) (client : Text) (event : Value) (params : Params) :
    Except Fault HttpRequest := do
  let address ← Address.withForm (endpoint account)
    [("measurement_id", account.measurementId), ("api_secret", account.secret)]
  HttpRequest.posting address (body client event (← fieldsOf params))

/-- What a reply means. -/
def conclude : HttpReply → Run ω SendOutcome
  | .transportFailure detail => throw (SendOutcome.unreachable .ga4 detail)
  | .otherFailure detail => throw (.outside detail)
  | .response status text => do
    if isAccepted status then return .taken .ga4
    let code := Decimal.ofInt status
    Run.log .warning .senders ("GA4 Measurement Protocol rejected event: " ++ code)
    return ⟨false, "GA4 request failed", some ("HTTP " ++ code ++ ": " ++ text)⟩

/-- Deliver a payload over a channel. -/
def send (account : MeasurementAccount) (channel : Channel) (payload : Value) :
    Run ω SendOutcome := do
  let params ← Run.ofExcept (paramsOf payload)
  let client ← clientId params
  let event ← Run.ofExcept (eventOf payload)
  Run.ensureOpen channel (.connected ⟨none, account.timeout⟩)
  let request ← Run.ofExcept (request account client event params)
  conclude (← Run.exchange request)

/-- The sender of an account. -/
def sender (account : MeasurementAccount) (channel : Channel) : Sender ω :=
  { build := fun event fields => do
      reportDropped event fields
      return payload event fields
    send := send account channel }

/-- Fields with personal data leave no trace in a payload. -/
theorem params_filter (fields : Fields) :
    params (fields.filter fun field => !isPersonal field) = params fields := by
  simp [params, List.filter_filter]

end MeasurementSender

end ConversionRelay
