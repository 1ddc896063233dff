import ConversionRelay.Proofs.Exchange
import ConversionRelay.Proofs.Sender.Vocabulary
import ConversionRelay.Sender.Directory
/-!
The services that events are sent to over HTTP.

The senders of both services do the same: they shape the fields of an event into a payload, make one
request of the payload, and read from the reply what the delivery came to. They differ in the
payload, in the address and the body of the request, and in how closely they look at the reply. This
is said here without running them: `Service.payload`, `Service.request` and `Service.meaning` are
functions of what they depend on, and the senders are shown to compute them.

Main statement: delivering a payload posts the one request that there is to make of it, if there is
one, and ends with what the reply means (`Service.send_run`).
-/
namespace ConversionRelay

open OrderedMap Run

variable {ω : Type}

/-- A service that events are sent to over HTTP. -/
inductive Service where
  | conversions (account : MetaAccount)
  | measurement (account : MeasurementAccount)

namespace Service

/-- The kind of the senders of a service. -/
def kind : Service → SenderKind
  | conversions account => .conversions account
  | measurement account => .measurement account

/-- The platform that a service belongs to. -/
def platform (service : Service) : Platform := service.kind.platform

/-- The sender of a service. -/
def sender (service : Service) (channel : Channel) : Sender ω := service.kind.sender channel

section Requests

/-- The payload of an event. -/
def payload (service : Service) (time : Instant) (event : Value) (fields : Fields) :
    Except Fault Fields :=
  match service with
  | conversions _ => MetaSender.payload time event fields
  | measurement _ => .ok (MeasurementSender.payload event fields)

/-- The address that requests go to. -/
def target : Service → Except Fault Text
  | conversions account => Address.below MetaSender.base (MetaSender.endpoint account)
  | measurement account => Address.withForm (MeasurementSender.endpoint account)
      [("measurement_id", account.measurementId), ("api_secret", account.secret)]

/-- The parameters that stand in a payload. -/
def paramsOf (payload : Fields) : Fields :=
  match lookup? payload "params" with
  | some (.object params) => params
  | _ => []

/-- What parameters say of the client, null if they say nothing. -/
def clientOf (params : Fields) : Value := Value.fieldOf params "client_id"

/-- The identifier of a client: the text of the one that parameters bring if it counts as present,
and else the next that is issued. -/
def clientFor (issued : Nat) (params : Fields) : Text :=
  if (clientOf params).isTruthy then (clientOf params).text
  else "generated-" ++ Decimal.ofNat (issued + 1)

/-- The body that is posted for a payload, where a number of identifiers were issued before. -/
def body (service : Service) (issued : Nat) (payload : Fields) : Value :=
  match service with
  | conversions account =>
    .object [("data", .array [.object payload]), ("access_token", account.token)]
  | measurement _ =>
    let event : Value := .object [("name", Value.fieldOf payload "event_name"),
      ("params", .object (erase (paramsOf payload) "client_id"))]
    .object [("client_id", .string (clientFor issued (paramsOf payload))),
      ("events", .array [event])]

/-- How many identifiers are issued to deliver a payload. -/
def issues (service : Service) (payload : Fields) : Nat :=
  match service with
  | conversions _ => 0
  | measurement _ => if (clientOf (paramsOf payload)).isTruthy then 0 else 1

/-- The request that delivers a payload. -/
def request (service : Service) (issued : Nat) (payload : Fields) : Except Fault HttpRequest := do
  HttpRequest.posting (← service.target) (service.body issued payload)

theorem exists_request {service : Service} {issued : Nat} {payload : Fields}
    (made : (service.request issued payload).isOk = true) :
    ∃ request, service.request issued payload = .ok request := by
  cases is : service.request issued payload with
  | ok request => exact ⟨request, rfl⟩
  | error fault =>
    rw [is] at made
    cases made

end Requests

section Replies

/-- What the reply to an accepted request has to be read for: Meta's for the number of events. -/
def receipt (service : Service) (text : Text) : Except Fault Unit :=
  match service with
  | conversions _ => (MetaSender.received text).map fun _ => ()
  | measurement _ => .ok ()

/-- The message about a request that was refused. -/
def refusal : Service → Text
  | conversions _ => "Facebook CAPI request failed"
  | measurement _ => "GA4 request failed"

/-- The error of a request that was refused. -/
def refusalError (status : Int) (text : Text) : Text :=
  "HTTP " ++ Decimal.ofInt status ++ ": " ++ text

/-- What a reply means. -/
def meaning (service : Service) : HttpReply → Except Fault SendOutcome
  | .transportFailure detail => .error (SendOutcome.unreachable service.platform detail)
  | .otherFailure detail => .error (.outside detail)
  | .response status text =>
    if isAccepted status then (service.receipt text).map fun _ => .taken service.platform
    else .ok ⟨false, service.refusal, some (refusalError status text)⟩

/-- What a service must find in the reply to an accepted request: Meta's has to be an object. -/
def Receives (service : Service) (text : Text) : Prop :=
  match service with
  | conversions _ => ∃ fields, MetaSender.replied text = .ok (.object fields)
  | measurement _ => True

theorem isOk_receipt {service : Service} {text : Text} :
    (service.receipt text).isOk = true ↔ service.Receives text := by
  cases service with
  | measurement account => exact ⟨fun _ => trivial, fun _ => rfl⟩
  | conversions account =>
    rw [receipt, Receives, MetaSender.received]
    rcases MetaSender.replied text with fault | document
    · constructor
      · intro received
        cases received
      · rintro ⟨_, same⟩
        cases same
    cases document with
    | object fields => exact ⟨fun _ => ⟨fields, rfl⟩, fun _ => rfl⟩
    | _ =>
      constructor
      · intro received
        cases received
      · rintro ⟨_, same⟩
        cases same

end Replies

/-- What delivering a payload in a session comes to. -/
def delivery (service : Service) (s : Session ω) (payload : Fields) : Except Fault SendOutcome :=
  (service.request s.issued payload).bind fun _ => service.meaning s.upcoming

/-- What is posted to deliver a payload in a session: one request, or none. -/
def posts (service : Service) (s : Session ω) (payload : Fields) : List HttpRequest :=
  (service.request s.issued payload).toOption.toList

end Service

namespace MetaSender

/-- Reading a reply changes nothing for those who make requests. -/
theorem conclude_run (account : MetaAccount) (reply : HttpReply) (s : Session ω) :
    ∃ t, (conclude account reply).outcome s = ((Service.conversions account).meaning reply, t) ∧
      s.OnLine t := by
  cases reply with
  | transportFailure detail | otherFailure detail => exact ⟨s, rfl, .refl s⟩
  | response status text =>
    rw [conclude, Service.meaning, Service.receipt]
    cases isAccepted status with
    | false => exact ⟨_, rfl, onLine_log _ _ _ s⟩
    | true =>
      simp only [if_true]
      rw [outcome_ofExcept_bind]
      cases received text with
      | error fault => exact ⟨s, rfl, .refl s⟩
      | ok count => exact ⟨_, rfl, onLine_log _ _ _ s⟩

end MetaSender

namespace MeasurementSender

theorem conclude_run (account : MeasurementAccount) (reply : HttpReply) (s : Session ω) :
    ∃ t, (conclude reply).outcome s = ((Service.measurement account).meaning reply, t) ∧
      s.OnLine t := by
  cases reply with
  | transportFailure detail | otherFailure detail => exact ⟨s, rfl, .refl s⟩
  | response status text =>
    rw [conclude, Service.meaning]
    cases isAccepted status with
    | false => exact ⟨_, rfl, onLine_log _ _ _ s⟩
    | true => exact ⟨s, rfl, .refl s⟩

/-- No other field is renamed to the identifier of the client. -/
theorem eq_client_of_nameOf {field : Text} (named : nameOf field = "client_id") :
    field = "client_id" := by
  have aliasesOther : ∀ name ∈ values aliases, name ≠ Text.ofString "client_id" := by decide
  unfold nameOf at named
  cases found : lookup? aliases field with
  | none =>
    rw [found] at named
    exact named
  | some name =>
    rw [found] at named
    exact absurd named (aliasesOther name (mem_values_of_lookup? found))

/-- The parameters of an event say of the client what its fields say. -/
theorem lookup?_params_client {fields : Fields} (distinct : Distinct fields) :
    lookup? (params fields) "client_id" = lookup? fields "client_id" := by
  let kept : Text → Bool := fun name => !personalFields.contains name
  have named : nameOf "client_id" = "client_id" := by decide
  have fewer : Distinct (fields.filter fun field => kept field.1) :=
    distinct.sublist (List.filter_sublist.map Prod.fst)
  have apart : ∀ other ∈ keys (fields.filter fun field => kept field.1),
      nameOf other = nameOf "client_id" → other = "client_id" :=
    fun other _ same => eq_client_of_nameOf (same.trans named)
  have own : kept "client_id" = true := by decide
  have renamed := lookup?_update_rename fewer apart []
  rw [named, lookup?_filter own, lookup?_nil, Option.or_none] at renamed
  rw [params, lookup?_withCurrency_of_ne (by decide)]
  exact renamed

/-- The identifier of the client is the one that the parameters bring, or it is issued. -/
theorem clientId_run (params : Fields) (s : Session ω) :
    ∃ t, (clientId (params.map fun entry => (.string entry.1, entry.2))).outcome s =
        (.ok (Service.clientFor s.issued params), t) ∧
      t.requests = s.requests ∧ t.replies = s.replies ∧
      t.issued = s.issued + if (Service.clientOf params).isTruthy then 0 else 1 := by
  have given : lookup? (params.map fun entry => (.string entry.1, entry.2)) clientKey =
      lookup? params "client_id" :=
    (lookup?_translate Value.string_beq id params "client_id").trans Option.map_id'
  have asked : (clientId (params.map fun entry => (.string entry.1, entry.2)) : Run ω Text) =
      if (Service.clientOf params).isTruthy then pure (Service.clientOf params).text
      else freshId := by
    rw [clientId, given]
    rfl
  rw [asked, Service.clientFor]
  cases (Service.clientOf params).isTruthy with
  | true => exact ⟨s, rfl, rfl, rfl, rfl⟩
  | false => exact ⟨{ s with issued := s.issued + 1 }, rfl, rfl, rfl, rfl⟩

/-- The request that is made of a payload that was built here. -/
theorem request_of_payload (account : MeasurementAccount) (issued : Nat) (event : Value)
    (fields : Fields) :
    request account (Service.clientFor issued (params fields)) event
        ((params fields).map fun entry => (.string entry.1, entry.2)) =
      (Service.measurement account).request issued (payload event fields) := by
  have kept : ofPairs (erase (params fields) "client_id") = erase (params fields) "client_id" :=
    ofPairs_of_distinct (distinct_erase (distinct_params fields) "client_id")
  rw [request, fieldsOf_strings, kept, Service.request]
  rfl

end MeasurementSender

namespace Service

variable {service : Service}

theorem build_run (service : Service) (channel : Channel) (event : Value) (fields : Fields)
    (s : Session ω) : ∃ t, ((service.sender channel).build event fields).outcome s =
      (service.payload s.now event fields, t) ∧ s.OnLine t := by
  cases service with
  | conversions account => exact ⟨s, rfl, .refl s⟩
  | measurement account =>
    refine ⟨_, MeasurementSender.build_run account channel event fields s, .journal ?_ s⟩
    intro effect member
    obtain ⟨name, _, rfl⟩ := List.mem_map.mp member
    rfl

/-- Delivering a payload that was built here posts the one request that there is to make of it, if
there is one, and ends with what the reply means. -/
theorem send_run (channel : Channel) {time : Instant} {event : Value} {fields payload : Fields}
    (builds : service.payload time event fields = .ok payload) (s : Session ω) :
    ∃ t, ((service.sender channel).send (.object payload)).outcome s =
        (service.delivery s payload, t) ∧
      t.requests = s.requests ++ service.posts s payload ∧
      t.issued = s.issued + service.issues payload := by
  cases service with
  | conversions account =>
    exact outcome_posting (MetaSender.conclude_run account) channel
      ⟨some MetaSender.base, account.timeout⟩ (MetaSender.request account (.object payload)) s
  | measurement account =>
    cases builds
    obtain ⟨u, identifies, requests, replies, issued⟩ :=
      MeasurementSender.clientId_run (MeasurementSender.params fields) s
    obtain ⟨t, ends, posted, issued'⟩ :=
      outcome_posting (MeasurementSender.conclude_run account) channel ⟨none, account.timeout⟩
        ((measurement account).request s.issued (MeasurementSender.payload event fields)) u
    have upcoming : u.upcoming = s.upcoming := by rw [Session.upcoming, replies, Session.upcoming]
    rw [requests] at posted
    rw [upcoming] at ends
    refine ⟨t, ?_, posted, issued'.trans issued⟩
    rw [delivery, ← ends, ← MeasurementSender.request_of_payload]
    exact outcome_bind_ok identifies

end Service

end ConversionRelay
