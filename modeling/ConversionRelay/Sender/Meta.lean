import ConversionRelay.Address.Target
import ConversionRelay.Digest
import ConversionRelay.Json.Bytes
import ConversionRelay.Json.Parser
import ConversionRelay.Sender.Basic
import ConversionRelay.Text.Case
/-!
Sending events to the Conversions interface of Meta.

The names of generated fields are replaced by those of the interface. Identifiers of people are sent
as digests of their normal form only; everything else is custom data. A value without a currency is
given one.

Main statements: an identifier that does not count as present leaves the routed data alone
(`MetaSender.identify_of_not_truthy`), and a digest depends on the normal form alone
(`MetaSender.digestOf_congr`).
-/
namespace ConversionRelay

/-- An account of the Conversions interface. -/
structure MetaAccount where
  token : Value
  pixel : Text
  version : Text
  timeout : Value

namespace MetaSender

variable {ω : Type}

/-- The address of the interface. -/
def base : Text := "https://graph.facebook.com"

/-- The names of generated fields and what the interface calls them. -/
def aliases : OrderedMap Text Text := [
  ("value_path", "value"),
  ("currency_path", "currency"),
  ("email_path", "email"),
  ("phone_path", "phone"),
  ("item_id_path", "content_ids")]

/-- What the interface calls a field. -/
def nameOf (field : Text) : Text := (OrderedMap.lookup? aliases field).getD field

/-- The form of an identifier that its digest is made of: its text without blanks around it, in
lower case. -/
def normalForm (identifier : Value) : Text := Text.lower (Text.trim identifier.text)

/-- The digest of an identifier. -/
def digestOf (identifier : Value) : Except Fault Text :=
  (Digest.ofText (normalForm identifier)).mapError .unencodable

/-- The two parts that fields are routed into. -/
structure Routed where
  user : Fields
  custom : Fields

/-- Put the digest of an identifier under a key, if the identifier counts as present. -/
def Routed.identify (routed : Routed) (key : Text) (identifier : Value) : Except Fault Routed :=
  if identifier.isTruthy then
    (digestOf identifier).map fun digest =>
      { routed with user := OrderedMap.put routed.user key (.array [.string digest]) }
  else .ok routed

/-- Put a value under a key of the custom data. -/
def Routed.customise (routed : Routed) (key : Text) (v : Value) : Routed :=
  { routed with custom := OrderedMap.put routed.custom key v }

/-- Route one field. -/
def route (routed : Routed) (field : Text × Value) : Except Fault Routed :=
  let name := nameOf field.1
  if name = "email" then routed.identify "em" field.2
  else if name = "phone" then routed.identify "ph" field.2
  else if name = "content_ids" then .ok (routed.customise name (.array [field.2]))
  else .ok (routed.customise name field.2)

/-- The payload of an event. -/
def payload (time : Instant) (event : Value) (fields : Fields) : Except Fault Fields :=
  (fields.foldlM route ⟨[], []⟩).map fun routed =>
    [ ("event_name", event),
      ("event_time", .int time.unixSeconds),
      ("action_source", .string "website"),
      ("user_data", .object routed.user),
      ("custom_data", .object (withCurrency routed.custom))]

/-- The target of the requests of an account. -/
def endpoint (account : MetaAccount) : Text :=
  "/" ++ account.version ++ "/" ++ account.pixel ++ "/events"

/-- The body of a request. -/
def body (account : MetaAccount) (payload : Value) : Value :=
  .object [("data", .array [payload]), ("access_token", account.token)]

/-- The request that delivers a payload. -/
def request (account : MetaAccount) (payload : Value) : Except Fault HttpRequest := do
  HttpRequest.posting (← Address.below base (endpoint account)) (body account payload)

/-- The document that a reply consists of. -/
def replied (text : Text) : Except Fault Value := do
  let bytes ← (Text.encodeUtf8 text).mapError .unencodable
  let decoded ← (Json.decodeBytes bytes).mapError .undecodable
  (Json.parseDecoded .standard decoded).mapError .json

/-- How many events an accepted request was for, as the reply tells. -/
def received (text : Text) : Except Fault Value := do
  match ← replied text with
  | .object fields => return (OrderedMap.lookup? fields "events_received").getD (.int 0)
  | other => .error (.lacks other.kind "get")

/-- What a reply means. -/
def conclude (account : MetaAccount) : HttpReply → Run ω SendOutcome
  | .transportFailure detail => throw (SendOutcome.unreachable .facebook detail)
  | .otherFailure detail => throw (.outside detail)
  | .response status text => do
    if isAccepted status then
      let count ← Run.ofExcept (received text)
      Run.log .info .senders
        ("Meta CAPI accepted " ++ count.text ++ " event(s) for pixel " ++ account.pixel)
      return .taken .facebook
    else
      let code := Decimal.ofInt status
      Run.log .warning .senders ("Meta CAPI rejected event: " ++ code ++ " " ++ text)
      return ⟨false, "Facebook CAPI request failed", some ("HTTP " ++ code ++ ": " ++ text)⟩

/-- Deliver a payload over a channel. -/
def send (account : MetaAccount) (channel : Channel) (payload : Value) : Run ω SendOutcome := do
  Run.ensureOpen channel (.connected ⟨some base, account.timeout⟩)
  let request ← Run.ofExcept (request account payload)
  conclude account (← Run.exchange request)

/-- The sender of an account. -/
def sender (account : MetaAccount) (channel : Channel) : Sender ω :=
  { build := fun event fields => do Run.ofExcept (payload (← Run.clock) event fields)
    send := send account channel }

/-- An identifier that does not count as present leaves the routed data alone. -/
theorem identify_of_not_truthy {routed : Routed} {key : Text} {identifier : Value}
    (absent : identifier.isTruthy = false) : routed.identify key identifier = .ok routed := by
  simp [Routed.identify, absent]

/-- A digest depends on the normal form alone. -/
theorem digestOf_congr {a b : Value} (same : normalForm a = normalForm b) :
    digestOf a = digestOf b := by
  simp [digestOf, same]

end MetaSender

end ConversionRelay
