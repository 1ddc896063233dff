import ConversionRelay.Proofs.Engine.Replies
import ConversionRelay.Proofs.Text.Encoding
/-!
What a record shows of the request that was made.

A payload is shaped three times: it is built of the fields of an event, wrapped into the body of a
request, and echoed in a record under the status of the branch. Nothing gets lost between the last
two. The body is a function of the record without its status and, where the record says nothing of
the client, of how many identifiers were issued before. A body with a number that is not finite or
with half of a surrogate pair cannot be posted, and then nothing is.

Main statement: the branch of a platform posts what its record shows, once, or nothing if that
cannot be posted (`Engine.process_echoes`).
-/
namespace ConversionRelay

open OrderedMap Run

variable {ω : Type}

section Bodies

/-- A body that can be posted: its numbers are finite, and its text holds no half of a surrogate
pair. -/
structure HttpRequest.Postable (body : Value) : Prop where
  finite : Json.allFinite body = true
  characters : (Json.print .compact body).Characters

theorem HttpRequest.posting_eq_ok {address : Text} {body : Value} {made : HttpRequest} :
    posting address body = .ok made ↔ Postable body ∧ made = ⟨address, body⟩ := by
  unfold posting checkBody
  constructor
  · intro posted
    cases finite : Json.allFinite body with
    | false =>
      rw [finite] at posted
      cases posted
    | true =>
      cases encodes : Text.encodeUtf8 (Json.print .compact body) with
      | error problem =>
        rw [finite, encodes] at posted
        cases posted
      | ok bytes =>
        rw [finite, encodes] at posted
        cases posted
        exact ⟨⟨finite, Text.chars_of_encodeUtf8 encodes⟩, rfl⟩
  · rintro ⟨⟨finite, characters⟩, rfl⟩
    rw [if_pos finite, Text.encodeUtf8_of_all_char characters]
    rfl

/-- A request is made exactly if there is an address for it and its body can be posted. -/
theorem Service.request_eq_ok {service : Service} {issued : Nat} {payload : Fields}
    {made : HttpRequest} : service.request issued payload = .ok made ↔ ∃ address,
      service.target = .ok address ∧ HttpRequest.Postable (service.body issued payload) ∧
        made = ⟨address, service.body issued payload⟩ := by
  rw [request]
  cases addressed : service.target with
  | error fault =>
    constructor
    · intro posted
      cases posted
    · rintro ⟨_, same, _⟩
      cases same
  | ok address =>
    constructor
    · intro posted
      exact ⟨address, rfl, HttpRequest.posting_eq_ok.mp posted⟩
    · rintro ⟨_, same, postable, is⟩
      cases same
      exact HttpRequest.posting_eq_ok.mpr ⟨postable, is⟩

/-- No field of the payload of a service is a status. -/
theorem Service.withoutStatus_payload {service : Service} {time : Instant} {event : Value}
    {fields payload : Fields} (builds : service.payload time event fields = .ok payload) :
    withoutStatus payload = payload := by
  apply withoutStatus_eq_self
  cases service with
  | conversions account =>
    rw [MetaSender.keys_payload builds]
    decide
  | measurement account =>
    cases builds
    exact show ∀ name ∈ ([Text.ofString "event_name", "params"] : List Text),
      name ∉ statusNames by decide

end Bodies

namespace Engine

variable {engine : Engine ω} {service : Service} {channel : Channel} {customer : Value}
  {event : EventData} {platform : Text} {mapping fields payload : Fields} {s u : Session ω}

/-- Where there is no payload, nothing is posted and the record has no success. -/
theorem process_of_unbuilt (starts : engine.BranchStarts customer event s platform mapping u)
    (serves : engine.Serves service channel event platform mapping fields) {fault : Fault}
    (unbuilt : service.payload u.now event.name fields = .error fault) :
    ∃ records record after,
      ((engine.process customer event).outcome s).1 = .ok records ∧
      lookup? records platform = some record ∧
      ((engine.branch event platform mapping).outcome u).2 = after ∧
      after.requests = u.requests ∧
      lookup? record "success" = some (.bool false) := by
  obtain ⟨records, _, _, answer, runs, bound, _⟩ := process_of_branchStarts starts
  obtain ⟨after, fails, online⟩ := serves.branch_of_unbuilt unbuilt
  rw [fails] at runs
  cases runs
  exact ⟨records, _, _, answer, bound, congrArg Prod.snd fails, online.requests,
    PlatformResult.success_record _⟩

/-- Where a payload is built, the branch posts what its record shows or nothing, and it has no success
where it posts nothing. -/
theorem process_of_echoed (starts : engine.BranchStarts customer event s platform mapping u)
    (serves : engine.Serves service channel event platform mapping fields)
    (builds : service.payload u.now event.name fields = .ok payload) :
    ∃ records record after,
      ((engine.process customer event).outcome s).1 = .ok records ∧
      lookup? records platform = some record ∧
      ((engine.branch event platform mapping).outcome u).2 = after ∧
      withoutStatus record = payload ∧
      after.requests = u.requests ++ service.posts u payload ∧
      after.issued = u.issued + service.issues payload ∧
      (service.posts u payload = [] → lookup? record "success" = some (.bool false)) := by
  obtain ⟨records, record, answer, bound, told, echo, _⟩ := process_of_built starts serves builds
  obtain ⟨after, runs, posted, issued⟩ := serves.branch_of_built builds
  rw [Service.withoutStatus_payload builds] at echo
  refine ⟨records, record, after, answer, bound, congrArg Prod.snd runs, echo, posted, issued, ?_⟩
  intro nothing
  have success := congrArg RecordStatus.success told
  cases requested : service.request u.issued payload with
  | ok made =>
    rw [Service.posts, requested] at nothing
    cases nothing
  | error fault =>
    rw [Service.delivery, requested] at success
    exact success

/-- The record without its status is the payload, if one was built. The branch of a platform that a
service serves makes exactly one request if there is a payload, an address and a body that can be
posted, and the body is the one that the record shows: for Meta the record without its status, next
to the token; for GA4 its name and its parameters without the identifier of the client, next to that
identifier or, if it does not count as present, to a new one. Otherwise no request is made and the
record has no success. The parameters in the record of GA4 say of the client what the fields say. -/
theorem process_echoes (starts : engine.BranchStarts customer event s platform mapping u)
    (serves : engine.Serves service channel event platform mapping fields) :
    ∃ records record after,
      ((engine.process customer event).outcome s).1 = .ok records ∧
      lookup? records platform = some record ∧
      ((engine.branch event platform mapping).outcome u).2 = after ∧
      (∀ payload, service.payload u.now event.name fields = .ok payload →
        withoutStatus record = payload) ∧
      (∀ payload address, service.payload u.now event.name fields = .ok payload →
        service.target = .ok address →
        HttpRequest.Postable (service.body u.issued (withoutStatus record)) →
        after.requests =
          u.requests ++ [⟨address, service.body u.issued (withoutStatus record)⟩]) ∧
      ((∀ payload address, service.payload u.now event.name fields = .ok payload →
        service.target = .ok address →
        ¬HttpRequest.Postable (service.body u.issued (withoutStatus record))) →
        after.requests = u.requests ∧ lookup? record "success" = some (.bool false)) ∧
      ∀ account, service = .measurement account →
        let params := Service.paramsOf (withoutStatus record)
        lookup? params "client_id" = lookup? fields "client_id" ∧
        after.issued = u.issued + if (Service.clientOf params).isTruthy then 0 else 1 := by
  cases builds : service.payload u.now event.name fields with
  | error fault =>
    obtain ⟨records, record, after, answer, bound, ends, silent, failed⟩ :=
      process_of_unbuilt starts serves builds
    refine ⟨records, record, after, answer, bound, ends, ?_, ?_, fun _ => ⟨silent, failed⟩, ?_⟩
    · intro payload built
      cases built
    · intro payload address built
      cases built
    · rintro account rfl
      cases builds
  | ok payload =>
    obtain ⟨records, record, after, answer, bound, ends, rfl, posted, issued, unposted⟩ :=
      process_of_echoed starts serves builds
    refine ⟨records, record, after, answer, bound, ends, ?_, ?_, ?_, ?_⟩
    · rintro _ ⟨⟩
      rfl
    · intro _ address _ addressed postable
      have requested := Service.request_eq_ok.mpr ⟨address, addressed, postable, rfl⟩
      rw [posted, Service.posts, requested]
      rfl
    · intro unpostable
      have nothing : service.posts u (withoutStatus record) = [] := by
        rw [Service.posts]
        cases requested : service.request u.issued (withoutStatus record) with
        | error fault => rfl
        | ok made =>
          obtain ⟨address, addressed, postable, _⟩ := Service.request_eq_ok.mp requested
          exact absurd postable (unpostable _ address rfl addressed)
      rw [posted, nothing, List.append_nil]
      exact ⟨rfl, unposted nothing⟩
    · rintro account rfl
      have distinct := distinct_of_branchStarts starts serves.reads
      have params : Service.paramsOf (withoutStatus record) = MeasurementSender.params fields := by
        rw [← Except.ok.inj builds]
        rfl
      refine ⟨?_, issued⟩
      rw [params, MeasurementSender.lookup?_params_client distinct]

/-- A purchase of a known client is posted with the identifier of the client moved out of the
parameters, where the record still has it. -/
theorem process_echoes_client :
    let service : Service := .measurement ⟨"G-1", "secret", false, .int 10⟩
    let mapping : Fields := [("client_id", .string "visitor"), ("value", .string "total")]
    let engine : Engine Unit := .single (.single "acme" "purchase" "ga4" mapping) "ga4"
      (service.sender (.sender "ga4"))
    let event : EventData :=
      ⟨.string "purchase", .object [("visitor", .int 7), ("total", .int 5)]⟩
    let fields : Fields := [("client_id", .int 7), ("value", .int 5)]
    let s : Session Unit := .initial ()
    engine.BranchStarts (.string "acme") event s "ga4" mapping s ∧
      engine.Serves service (.sender "ga4") event "ga4" mapping fields ∧
      ∃ records record after address,
        ((engine.process (.string "acme") event).outcome s).1 = .ok records ∧
        lookup? records "ga4" = some record ∧
        ((engine.branch event "ga4" mapping).outcome s).2 = after ∧
        after.requests = [⟨address, service.body 0 (withoutStatus record)⟩] ∧
        lookup? (Service.paramsOf (withoutStatus record)) "client_id" = some (.int 7) := by
  intro service mapping engine event fields s
  have texts : ∀ field ∈ mapping, ∃ path, field.2 = .string path :=
    List.forall_mem_cons.mpr ⟨⟨"visitor", rfl⟩, List.forall_mem_singleton.mpr ⟨"total", rfl⟩⟩
  have starts : engine.BranchStarts (.string "acme") event s "ga4" mapping s :=
    branchStarts_single (by decide) texts rfl _ _ s
  have serves : engine.Serves service (.sender "ga4") event "ga4" mapping fields := ⟨rfl, rfl⟩
  let payload : Fields := MeasurementSender.payload (.string "purchase") fields
  have possible : (service.request 0 payload).isOk = true := by decide +kernel
  obtain ⟨made, requested⟩ := Service.exists_request possible
  obtain ⟨address, addressed, postable, _⟩ := Service.request_eq_ok.mp requested
  obtain ⟨records, record, after, answer, bound, ends, echo, posted, _, told⟩ :=
    process_echoes starts serves
  have shown : withoutStatus record = payload := echo payload rfl
  refine ⟨starts, serves, records, record, after, address, answer, bound, ends, ?_, ?_⟩
  · exact posted payload address rfl addressed (shown ▸ postable)
  · exact (told _ rfl).1

/-- A purchase of half of a surrogate pair has a body without a number that is not finite, but no
request is made of it. -/
theorem process_unposted_half :
    let service : Service := .conversions ⟨.string "token", "1", "v18.0", .int 10⟩
    let mapping : Fields := [("value", .string "total")]
    let engine : Engine Unit := .single (.single "acme" "purchase" "facebook" mapping) "facebook"
      (service.sender (.sender "facebook"))
    let event : EventData := ⟨.string "purchase", .object [("total", .string [.surrogate 0])]⟩
    let s : Session Unit := .initial ()
    engine.BranchStarts (.string "acme") event s "facebook" mapping s ∧
      engine.Serves service (.sender "facebook") event "facebook" mapping
        [("value", .string [.surrogate 0])] ∧
      ∃ records record after address,
        ((engine.process (.string "acme") event).outcome s).1 = .ok records ∧
        lookup? records "facebook" = some record ∧
        ((engine.branch event "facebook" mapping).outcome s).2 = after ∧
        service.target = .ok address ∧
        Json.allFinite (service.body 0 (withoutStatus record)) = true ∧
        after.requests = [] ∧
        lookup? record "success" = some (.bool false) := by
  intro service mapping engine event s
  have starts : engine.BranchStarts (.string "acme") event s "facebook" mapping s :=
    branchStarts_single (by decide) (List.forall_mem_singleton.mpr ⟨"total", rfl⟩) rfl _ _ s
  have serves : engine.Serves service (.sender "facebook") event "facebook" mapping
      [("value", .string [.surrogate 0])] := ⟨rfl, rfl⟩
  let payload : Fields := [("event_name", .string "purchase"),
    ("event_time", .int (Instant.unixSeconds ⟨0, 0⟩)), ("action_source", .string "website"),
    ("user_data", .object []),
    ("custom_data", .object [("value", .string [.surrogate 0]), ("currency", .string "USD")])]
  have builds : service.payload s.now event.name [("value", .string [.surrogate 0])] =
    .ok payload := rfl
  have finite : Json.allFinite (service.body 0 payload) = true := by decide +kernel
  have refused : (service.posts s payload).isEmpty = true := by decide +kernel
  have nothing := List.isEmpty_iff.mp refused
  obtain ⟨_, _, _, possible⟩ := purchase_requested
  obtain ⟨address, addressed, _⟩ := Service.request_eq_ok.mp possible
  obtain ⟨records, record, after, answer, bound, ends, echo, posted, _, unposted⟩ :=
    process_of_echoed starts serves builds
  rw [nothing] at posted
  rw [← echo] at finite
  exact ⟨starts, serves, records, record, after, address, answer, bound, ends, addressed, finite,
    posted, unposted nothing⟩

end Engine

end ConversionRelay
