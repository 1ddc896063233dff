import ConversionRelay.Proofs.Run
import ConversionRelay.Proofs.Sender.Basic
import ConversionRelay.Sender.Measurement
/-!
Personal data never reaches GA4.

Fields with personal data are dropped before anything else is done with the fields, so two lists of
fields that agree without them have one payload, and whatever is done with that payload is the same.
This covers everything later steps look at: the default currency, the identifier of the client, the
target and the body of the request, the replies and the faults. All that may differ are the lines
that name the dropped fields, and they are known from the names alone.

Main statement: events that agree without their personal data are delivered alike, and no name of a
personal field stands in a payload or in a request (`deliver_without_personalData`).
-/
namespace ConversionRelay

namespace MeasurementSender

open OrderedMap

variable {ω : Type}

section Names

/-- Names of the protocol are no names of personal fields. -/
theorem nameOf_not_personal {field : Text} (other : field ∉ personalFields) :
    nameOf field ∉ personalFields := by
  have aliasesOther : ∀ name ∈ values aliases, name ∉ personalFields := by decide
  unfold nameOf
  cases found : lookup? aliases field with
  | none => exact other
  | some name => exact aliasesOther name (mem_values_of_lookup? found)

/-- No parameter has the name of a personal field, after renaming as little as before. -/
theorem params_not_personal {fields : Fields} {name : Text} (member : name ∈ keys (params fields)) :
    name ∉ personalFields := by
  rcases mem_keys_withCurrency member with renamed | rfl
  · obtain ⟨field, kept, rfl⟩ : ∃ field, field ∈ fields.filter (fun field => !isPersonal field) ∧
        nameOf field.1 = name := by
      simpa [keys] using mem_keys_ofPairs.mp renamed
    have other : field.1 ∉ personalFields := by
      simpa [isPersonal] using (List.mem_filter.mp kept).2
    exact nameOf_not_personal other
  · decide

end Names

section Requests

/-- The parameters of a payload that was built here, as they are found in it. -/
theorem paramsOf_payload (event : Value) (fields : Fields) :
    paramsOf (.object (payload event fields)) =
      .ok ((params fields).map fun entry => (.string entry.1, entry.2)) := rfl

theorem mapM_keyName (fields : Fields) :
    (fields.map fun entry => ((.string entry.1, entry.2) : Value × Value)).mapM
      (fun entry => (keyName entry.1).map (·, entry.2)) = .ok fields := by
  induction fields with
  | nil => rfl
  | cons entry rest ih =>
    rw [List.map_cons, List.mapM_cons, ih]
    rfl

/-- Parameters under names that are texts keep their names in a request. -/
theorem fieldsOf_strings (fields : Fields) :
    fieldsOf (fields.map fun entry => (.string entry.1, entry.2)) =
      .ok (ofPairs (erase fields "client_id")) := by
  have erased := erase_map Value.string_beq id fields "client_id"
  simp only [id_eq] at erased
  rw [fieldsOf, clientKey, erased, mapM_keyName]
  rfl

/-- An effect that is no request, or a request whose parameters bear no name of a personal field. -/
def Impersonal : Effect → Prop
  | .requested request => ∃ client event fields, request.body = body client event fields ∧
      ∀ name ∈ keys fields, name ∉ personalFields
  | _ => True

/-- What is posted for a payload that was built here are its parameters. -/
theorem body_of_request {account : MeasurementAccount} {client : Text} {event : Value}
    {fields : Fields} {made : HttpRequest}
    (posted : request account client event
      ((params fields).map fun entry => (.string entry.1, entry.2)) = .ok made) :
    made.body = body client event (ofPairs (erase (params fields) "client_id")) := by
  rw [request, fieldsOf_strings] at posted
  cases address : Address.withForm (endpoint account)
      [("measurement_id", account.measurementId), ("api_secret", account.secret)] with
  | error fault => rw [address] at posted; cases posted
  | ok target => rw [address] at posted; exact HttpRequest.body_of_posting posted

end Requests

section Delivery

variable {kind : Value → Prop}

theorem clientId_appendsOnly (params : Params) :
    Run.AppendsOnly (Effect.Posting kind) (clientId params : Run ω Text) := by
  unfold clientId
  dsimp only
  split
  · exact .pure _
  · exact .freshId

theorem conclude_appendsOnly (reply : HttpReply) :
    Run.AppendsOnly (Effect.Posting kind) (conclude reply : Run ω SendOutcome) := by
  cases reply with
  | transportFailure detail => exact .throw _
  | otherFailure detail => exact .throw _
  | response status text =>
    simp only [conclude]
    split
    · exact .pure _
    · exact .bind (.log _ _ _ trivial) fun _ => .pure _

/-- Delivering a payload that was built here does not depend on what was done before, and whatever
it requests posts the parameters of the payload. -/
theorem send_posting (account : MeasurementAccount) (channel : Channel) (event : Value)
    (fields : Fields) :
    Run.AppendsOnly
      (Effect.Posting fun posted => ∃ client,
        posted = body client event (ofPairs (erase (params fields) "client_id")))
      (send account channel (.object (payload event fields)) : Run ω SendOutcome) := by
  refine .ofExcept_bind fun params found => ?_
  -- What is found in the payload are the parameters that it was built of.
  obtain rfl : (MeasurementSender.params fields).map
      (fun entry => ((.string entry.1, entry.2) : Value × Value)) = params := by
    rw [paramsOf_payload] at found
    exact Except.ok.inj found
  refine .bind (clientId_appendsOnly _) fun client => .ofExcept_bind fun name named => ?_
  obtain rfl : event = name := Except.ok.inj named
  refine .bind (.ensureOpen channel trivial) fun _ => .ofExcept_bind fun made posted => ?_
  exact .bind (.exchange ⟨client, body_of_request posted⟩) conclude_appendsOnly

/-- Whatever is requested to deliver a payload that was built here is impersonal. -/
theorem send_appendsOnly (account : MeasurementAccount) (channel : Channel) (event : Value)
    (fields : Fields) :
    Run.AppendsOnly Impersonal
      (send account channel (.object (payload event fields)) : Run ω SendOutcome) := by
  refine (send_posting account channel event fields).mono fun effect posting => ?_
  cases effect with
  | requested request =>
    obtain ⟨client, body⟩ := posting
    refine ⟨client, event, _, body, fun name member => ?_⟩
    exact params_not_personal (keys_erase_subset (mem_keys_ofPairs.mp member))
  | _ => trivial

/-- The lines that name dropped fields. -/
def droppedLines (event : Value) (names : List Text) : List Effect :=
  names.map fun name =>
    .logged ⟨.debug, .senders, "Dropping " ++ name ++ " from GA4 " ++ event.text ++ " params"⟩

/-- What is said of dropped fields are their names alone. -/
theorem reportDropped_run (event : Value) (fields : Fields) (s : Session ω) :
    (reportDropped event fields).outcome s = (.ok (), { s with
      journal := s.journal ++ droppedLines event (keys (fields.filter isPersonal)) }) := by
  unfold reportDropped
  induction fields.filter isPersonal generalizing s with
  | nil => simp [droppedLines]
  | cons field rest ih =>
    refine (Run.outcome_bind_ok (Run.log_run _ _ _ s)).trans ((ih _).trans ?_)
    simp [droppedLines]

/-- Building a payload leaves nothing but the lines that name dropped fields. -/
theorem build_run (account : MeasurementAccount) (channel : Channel) (event : Value)
    (fields : Fields) (s : Session ω) :
    ((sender account channel).build event fields).outcome s = (.ok (payload event fields), { s with
      journal := s.journal ++ droppedLines event (keys (fields.filter isPersonal)) }) :=
  Run.outcome_bind_ok (reportDropped_run event fields s)

theorem payload_congr {event : Value} {f g : Fields}
    (agree : f.filter (fun field => !isPersonal field) = g.filter fun field => !isPersonal field) :
    payload event f = payload event g := by
  rw [payload, payload, params, params, agree]

/-- Events that agree without their personal data are delivered alike: with one payload, one
outcome, and the same effects behind the lines that name dropped fields. No parameter of the payload
bears the name of a personal field, and every request is impersonal. -/
theorem deliver_without_personalData (account : MeasurementAccount) (channel : Channel)
    (event : Value) (f g : Fields)
    (agree : f.filter (fun field => !isPersonal field) = g.filter fun field => !isPersonal field)
    (s : Session ω) :
    ∃ (result : Except Fault SendOutcome) (after : Session ω) (added : List Effect),
      (∀ fields ∈ [f, g],
        ((sender account channel).build event fields).outcome s =
          (.ok (payload event f), { s with
            journal := s.journal ++ droppedLines event (keys (fields.filter isPersonal)) }) ∧
        ((sender account channel).deliver event fields).outcome s = (result, { after with
          journal :=
            s.journal ++ droppedLines event (keys (fields.filter isPersonal)) ++ added })) ∧
      (∀ name ∈ keys (params f), name ∉ personalFields) ∧
      ∀ effect ∈ added, Impersonal effect := by
  obtain ⟨result, after, added, impersonal, runs⟩ := send_appendsOnly account channel event f s
  refine ⟨result, after, added, fun fields member => ?_, fun _ => params_not_personal, impersonal⟩
  have same : payload event fields = payload event f := by
    rcases List.mem_cons.mp member with rfl | member
    · rfl
    · rw [List.mem_singleton.mp member, payload_congr agree]
  have built := build_run account channel event fields s
  rw [same] at built
  exact ⟨built, (Run.outcome_bind_ok built).trans (runs _)⟩

/-- An event with an email and one without it are delivered alike. -/
theorem deliver_without_email :
    let account : MeasurementAccount := ⟨"G-1", "secret", false, .int 5⟩
    let f : Fields := [("email_path", .string "a@b.c"), ("value_path", .int 5)]
    let g : Fields := [("value_path", .int 5)]
    f.filter (fun field => !isPersonal field) = g.filter (fun field => !isPersonal field) ∧
      ∃ (result : Except Fault SendOutcome) (after : Session Unit) (added : List Effect),
        ∀ fields ∈ [f, g],
          ((sender account .store).deliver .null fields).outcome (.initial ()) =
            (result, { after with
              journal := droppedLines .null (keys (fields.filter isPersonal)) ++ added }) := by
  intro account f g
  have email : isPersonal ("email_path", .string "a@b.c") = true :=
    show personalFields.contains "email_path" = true by decide
  have agree : f.filter (fun field => !isPersonal field) =
      g.filter fun field => !isPersonal field := by
    simp [f, g, List.filter_cons, email]
  obtain ⟨result, after, added, runs, _⟩ :=
    deliver_without_personalData account .store .null f g agree (.initial ())
  exact ⟨agree, result, after, added, fun fields member => (runs fields member).2⟩

end Delivery

end MeasurementSender

end ConversionRelay
