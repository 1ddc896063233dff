import ConversionRelay.Proofs.Engine.Status
import ConversionRelay.Proofs.Sender.Service
/-!
What replies do to the records that are answered.

The branch of a platform that a service serves ends as the delivery of its payload does, and the
delivery as the reply to its request says. A refusal and a failure of the transport are told apart in
the error of the record. An acceptance is a success if the service finds in the reply what it looks
for: GA4 looks for nothing, but Meta reads the number of events that were received, so a reply that
is no object makes a failure of a request that was accepted.

Main statement: what the record of a platform says of each reply (`Engine.process_replied`).
-/
namespace ConversionRelay

open OrderedMap Run

variable {ω : Type}

/-- The wording of a failure of the transport. -/
theorem SendOutcome.text_unreachable (platform : Platform) (detail : Text) :
    (unreachable platform detail).text = platform.key ++ ": Network error: " ++ detail := by
  have joined : Text.ofString ": " ++ "Network error: " = ": Network error: " := by decide
  have worded : (unreachable platform detail).text =
      platform.key ++ ": " ++ ("Network error: " ++ detail) := rfl
  rw [worded, ← joined]
  simp only [List.append_assoc]

namespace Service

variable {service : Service} {platform : Text}

/-- A delivery succeeds exactly if its request was accepted and the service finds in the reply what
it looks for. -/
theorem success_meaning (reply : HttpReply) :
    (SendOutcome.settled platform (service.meaning reply)).success = true ↔ ∃ status text,
      reply = .response status text ∧ 200 ≤ status ∧ status ≤ 299 ∧ service.Receives text := by
  cases reply with
  | transportFailure detail | otherFailure detail =>
    constructor
    · intro success
      cases success
    · rintro ⟨_, _, same, _⟩
      cases same
  | response status text =>
    have within : isAccepted status = true ↔ 200 ≤ status ∧ status ≤ 299 := by simp [isAccepted]
    have decided : (SendOutcome.settled platform (service.meaning (.response status text))).success =
        true ↔ isAccepted status = true ∧ service.Receives text := by
      rw [meaning, ← isOk_receipt]
      cases isAccepted status with
      | false =>
        constructor
        · intro success
          cases success
        · rintro ⟨accepted, _⟩
          cases accepted
      | true =>
        rcases service.receipt text with fault | found
        · constructor
          · intro success
            cases success
          · rintro ⟨_, received⟩
            cases received
        · exact ⟨fun _ => ⟨rfl, rfl⟩, fun _ => rfl⟩
    rw [decided, within]
    constructor
    · rintro ⟨⟨least, most⟩, receives⟩
      exact ⟨status, text, rfl, least, most, receives⟩
    · rintro ⟨_, _, same, least, most, receives⟩
      cases same
      exact ⟨⟨least, most⟩, receives⟩

theorem distinct_payload {time : Instant} {event : Value} {fields payload : Fields}
    (builds : service.payload time event fields = .ok payload) : Distinct payload := by
  cases service with
  | conversions account => exact MetaSender.distinct_payload builds
  | measurement account =>
    cases builds
    exact MeasurementSender.distinct_payload event fields

end Service

namespace Engine

/-- A platform is served by a service, for which fields are read from the data layer. -/
structure Serves (engine : Engine ω) (service : Service) (channel : Channel) (event : EventData)
    (platform : Text) (mapping fields : Fields) : Prop where
  served : lookup? engine.senders platform = some (service.sender channel)
  reads : DataLayer.readFields event.layer mapping = .ok fields

variable {engine : Engine ω} {service : Service} {channel : Channel} {customer : Value}
  {event : EventData} {platform : Text} {mapping fields payload : Fields} {s u : Session ω}

/-- A payload is prepared as it is built, and nothing is requested for that. -/
theorem Serves.prepares
    (serves : engine.Serves service channel event platform mapping fields) (u : Session ω) :
    ∃ v, (prepare (service.sender channel) event mapping).outcome u =
      (service.payload u.now event.name fields, v) ∧ u.OnLine v := by
  obtain ⟨v, builds, online⟩ := service.build_run channel event.name fields u
  exact ⟨v, (prepare_run serves.reads u).trans builds, online⟩

/-- A branch without a payload fails, and nothing is requested. -/
theorem Serves.branch_of_unbuilt
    (serves : engine.Serves service channel event platform mapping fields) {fault : Fault}
    (unbuilt : service.payload u.now event.name fields = .error fault) :
    ∃ after, (engine.branch event platform mapping).outcome u =
      (.ok (.failed (platform ++ " send failed") [] fault.text), after) ∧ u.OnLine after := by
  obtain ⟨v, prepares, online⟩ := serves.prepares u
  rw [unbuilt] at prepares
  obtain ⟨after, runs, online'⟩ := branch_of_unprepared serves.served prepares
  exact ⟨after, runs, online.trans online'⟩

/-- A branch with a payload ends as its delivery does, and posts what the delivery posts. -/
theorem Serves.branch_of_built
    (serves : engine.Serves service channel event platform mapping fields)
    (builds : service.payload u.now event.name fields = .ok payload) :
    ∃ after, (engine.branch event platform mapping).outcome u =
        (.ok (.ofDelivery platform payload (service.delivery u payload)), after) ∧
      after.requests = u.requests ++ service.posts u payload ∧
      after.issued = u.issued + service.issues payload := by
  obtain ⟨v, prepares, online⟩ := serves.prepares u
  rw [builds] at prepares
  obtain ⟨w, sends, posted, issued⟩ := Service.send_run channel builds v
  obtain ⟨after, runs, online'⟩ := branch_of_prepared serves.served prepares sends
  have delivered : service.delivery v payload = service.delivery u payload := by
    rw [Service.delivery, online.issued, online.upcoming, Service.delivery]
  rw [delivered] at runs
  refine ⟨after, runs, ?_, ?_⟩
  · rw [online'.requests, posted, online.requests, Service.posts, online.issued, Service.posts]
  · rw [online'.issued, issued, online.issued]

/-- The record of a platform whose payload was built has the status that the delivery came to. -/
theorem process_of_built (starts : engine.BranchStarts customer event s platform mapping u)
    (serves : engine.Serves service channel event platform mapping fields)
    (builds : service.payload u.now event.name fields = .ok payload) :
    ∃ records record,
      ((engine.process customer event).outcome s).1 = .ok records ∧
      lookup? records platform = some record ∧
      statusOf record = (SendOutcome.settled platform (service.delivery u payload)).status ∧
      withoutStatus record = withoutStatus payload ∧
      engine.Lists customer event s platform
        ((SendOutcome.settled platform (service.delivery u payload)).success = true) := by
  obtain ⟨records, result, after, answer, runs, bound, lists⟩ := process_of_branchStarts starts
  obtain ⟨_, runs', _⟩ := serves.branch_of_built builds
  rw [runs] at runs'
  cases runs'
  refine ⟨records, _, answer, bound, ?_, PlatformResult.withoutStatus_record _, lists⟩
  rw [PlatformResult.statusOf_record _ (Service.distinct_payload builds),
    PlatformResult.status_ofDelivery]

/-- Where a request is made, what the reply means is what the delivery comes to. -/
theorem delivery_of_requested {made : HttpRequest}
    (requested : service.request u.issued payload = .ok made) :
    service.delivery u payload = service.meaning u.upcoming := by
  rw [Service.delivery, requested]
  rfl

/-- Whatever the fields of an event are and whatever is replied to the request that is made for them,
the event log lists the platform exactly if its record says that it succeeded, and it succeeded
exactly if a response with a status from 200 to 299 came back in which the service finds what it
looks for. A response with any other status and a failure of the transport stand in the error of the
record, and so does the fault of a service that does not find what it looks for. -/
theorem process_replied (starts : engine.BranchStarts customer event s platform mapping u)
    (serves : engine.Serves service channel event platform mapping fields)
    (builds : service.payload u.now event.name fields = .ok payload) {made : HttpRequest}
    (requested : service.request u.issued payload = .ok made) :
    ∃ records record,
      ((engine.process customer event).outcome s).1 = .ok records ∧
      lookup? records platform = some record ∧
      engine.Lists customer event s platform (lookup? record "success" = some (.bool true)) ∧
      (lookup? record "success" = some (.bool true) ↔ ∃ status text,
        u.upcoming = .response status text ∧ 200 ≤ status ∧ status ≤ 299 ∧
          service.Receives text) ∧
      (∀ status text, u.upcoming = .response status text → ¬(200 ≤ status ∧ status ≤ 299) →
        lookup? record "success" = some (.bool false) ∧
        lookup? record "error" =
          some (.string ("HTTP " ++ Decimal.ofInt status ++ ": " ++ text))) ∧
      (∀ detail, u.upcoming = .transportFailure detail →
        lookup? record "success" = some (.bool false) ∧
        lookup? record "error" =
          some (.string (service.platform.key ++ ": Network error: " ++ detail))) ∧
      ∀ status text fault, u.upcoming = .response status text → 200 ≤ status → status ≤ 299 →
        service.receipt text = .error fault →
        lookup? record "success" = some (.bool false) ∧
        lookup? record "error" = some (.string fault.text) := by
  obtain ⟨records, record, answer, bound, told, _, lists⟩ := process_of_built starts serves builds
  rw [delivery_of_requested requested] at told lists
  have success := congrArg RecordStatus.success told
  have error := congrArg RecordStatus.error told
  dsimp only [statusOf, SendOutcome.status] at success error
  have succeeded : lookup? record "success" = some (.bool true) ↔
      (SendOutcome.settled platform (service.meaning u.upcoming)).success = true := by
    rw [success]
    simp
  refine ⟨records, record, answer, bound, lists.congr succeeded.symm, ?_, ?_, ?_, ?_⟩
  · rw [succeeded, Service.success_meaning]
  · intro status text replied refused
    have outside : isAccepted status = false := by simpa [isAccepted] using refused
    have means : service.meaning u.upcoming =
        .ok ⟨false, service.refusal, some (Service.refusalError status text)⟩ := by
      rw [replied, Service.meaning, outside]
      rfl
    rw [success, error, means]
    exact ⟨rfl, rfl⟩
  · intro detail replied
    rw [success, error, replied, ← SendOutcome.text_unreachable]
    exact ⟨rfl, rfl⟩
  · intro status text fault replied least most unread
    have accepted : isAccepted status = true := by simp [isAccepted, least, most]
    have means : service.meaning u.upcoming = .error fault := by
      rw [replied, Service.meaning, accepted, if_pos rfl, unread]
      rfl
    rw [success, error, means]
    exact ⟨rfl, rfl⟩

/-- A purchase of 5 can be posted to Meta. -/
theorem purchase_requested :
    let service : Service := .conversions ⟨.string "token", "1", "v18.0", .int 10⟩
    ∃ payload made,
      service.payload ⟨0, 0⟩ (.string "purchase") [("value", .int 5)] = .ok payload ∧
      service.request 0 payload = .ok made := by
  intro service
  let payload : Fields := [("event_name", .string "purchase"),
    ("event_time", .int (Instant.unixSeconds ⟨0, 0⟩)), ("action_source", .string "website"),
    ("user_data", .object []),
    ("custom_data", .object [("value", .int 5), ("currency", .string "USD")])]
  have possible : (service.request 0 payload).isOk = true := by decide +kernel
  obtain ⟨made, requested⟩ := Service.exists_request possible
  exact ⟨payload, made, rfl, requested⟩

/-- An acceptance in which Meta tells how many events it received is a success. -/
theorem process_replied_received :
    let service : Service := .conversions ⟨.string "token", "1", "v18.0", .int 10⟩
    let mapping : Fields := [("value", .string "total")]
    let engine : Engine Unit := .single (.single "acme" "purchase" "facebook" mapping) "facebook"
      (service.sender (.sender "facebook"))
    let event : EventData := ⟨.string "purchase", .object [("total", .int 5)]⟩
    let s : Session Unit := { Session.initial () with
      replies := [.response 200 "\x7b\x22events_received\x22: 1\x7d"] }
    engine.BranchStarts (.string "acme") event s "facebook" mapping s ∧
      engine.Serves service (.sender "facebook") event "facebook" mapping [("value", .int 5)] ∧
      ∃ payload made records record,
        service.payload s.now event.name [("value", .int 5)] = .ok payload ∧
        service.request s.issued payload = .ok made ∧
        ((engine.process (.string "acme") event).outcome s).1 = .ok records ∧
        lookup? records "facebook" = some record ∧
        lookup? record "success" = some (.bool true) := by
  intro service mapping engine event s
  have starts : engine.BranchStarts (.string "acme") event s "facebook" mapping s :=
    branchStarts_single (by decide) (List.forall_mem_singleton.mpr ⟨"total", rfl⟩) rfl _ _ s
  have serves : engine.Serves service (.sender "facebook") event "facebook" mapping
      [("value", .int 5)] := ⟨rfl, rfl⟩
  obtain ⟨payload, made, builds, requested⟩ := purchase_requested
  have told : (service.receipt "\x7b\x22events_received\x22: 1\x7d").isOk = true := by
    decide +kernel
  obtain ⟨records, record, answer, bound, _, succeeds, _⟩ :=
    process_replied starts serves builds requested
  exact ⟨starts, serves, payload, made, records, record, builds, requested, answer, bound,
    succeeds.mpr ⟨200, _, rfl, by decide, by decide, Service.isOk_receipt.mp told⟩⟩

/-- An acceptance with an empty body makes a failure of a purchase that Meta took, and the event log
does not list the platform. -/
theorem process_accepted_unread :
    let service : Service := .conversions ⟨.string "token", "1", "v18.0", .int 10⟩
    let mapping : Fields := [("value", .string "total")]
    let engine : Engine Unit := .single (.single "acme" "purchase" "facebook" mapping) "facebook"
      (service.sender (.sender "facebook"))
    let event : EventData := ⟨.string "purchase", .object [("total", .int 5)]⟩
    let s : Session Unit := { Session.initial () with replies := [.response 200 ""] }
    engine.BranchStarts (.string "acme") event s "facebook" mapping s ∧
      engine.Serves service (.sender "facebook") event "facebook" mapping [("value", .int 5)] ∧
      ∃ payload made records record,
        service.payload s.now event.name [("value", .int 5)] = .ok payload ∧
        service.request s.issued payload = .ok made ∧
        ((engine.process (.string "acme") event).outcome s).1 = .ok records ∧
        lookup? records "facebook" = some record ∧
        lookup? record "success" = some (.bool false) ∧
        engine.Lists (.string "acme") event s "facebook" False := by
  intro service mapping engine event s
  have starts : engine.BranchStarts (.string "acme") event s "facebook" mapping s :=
    branchStarts_single (by decide) (List.forall_mem_singleton.mpr ⟨"total", rfl⟩) rfl _ _ s
  have serves : engine.Serves service (.sender "facebook") event "facebook" mapping
      [("value", .int 5)] := ⟨rfl, rfl⟩
  obtain ⟨payload, made, builds, requested⟩ := purchase_requested
  have untold : (service.receipt "").isOk = false := by decide +kernel
  have failed : (SendOutcome.settled "facebook" (service.meaning s.upcoming)).success = false := by
    apply Bool.eq_false_iff.mpr
    intro success
    obtain ⟨_, _, replied, _, _, receives⟩ := (Service.success_meaning _).mp success
    cases replied
    rw [Service.isOk_receipt.mpr receives] at untold
    cases untold
  obtain ⟨records, record, answer, bound, told, _, lists⟩ := process_of_built starts serves builds
  rw [delivery_of_requested requested] at told lists
  refine ⟨starts, serves, payload, made, records, record, builds, requested, answer, bound, ?_, ?_⟩
  · exact (congrArg RecordStatus.success told).trans
      (congrArg (fun success => some (Value.bool success)) failed)
  · apply lists.congr
    rw [failed]
    simp

end Engine

end ConversionRelay
