import ConversionRelay.Proofs.Engine.Endings
import ConversionRelay.Proofs.Engine.LogDelivery
import ConversionRelay.Proofs.Sender.PersonalData
import ConversionRelay.Sender.Directory
/-!
The status of a record.

A record echoes the payload of a branch, and what the fields of a payload are called is up to the
customer. The status of the branch is laid over the payload last: it stands in the record as the
branch ended, and every other field stands there as the payload has it. So no field can pass for a
status, and no value of a data layer can change one.

Main statements: a record has the status of its result (`PlatformResult.statusOf_record`) and all
other fields of its payload (`PlatformResult.withoutStatus_record`), the senders that the program
brings along build maps (`SenderKind.buildsMaps`), and what is answered for a platform and noted in
the event log is how its branch ended (`Engine.process_status`).
-/
namespace ConversionRelay

open OrderedMap Run

variable {ω : Type}

section Records

/-- What a record says of the branch of its platform. -/
structure RecordStatus where
  success : Option Value
  message : Option Value
  error : Option Value

/-- The status that stands in a record. -/
def statusOf (record : Fields) : RecordStatus where
  success := lookup? record "success"
  message := lookup? record "message"
  error := lookup? record "error"

/-- The fields of a payload or a record that are no status, in their order. -/
def withoutStatus (fields : Fields) : Fields :=
  fields.filter fun field => !statusNames.contains field.1

theorem withoutStatus_put {name : Text} (own : name ∈ statusNames) (fields : Fields) (v : Value) :
    withoutStatus (put fields name v) = withoutStatus fields := by
  let kept : Text → Bool := fun name => !statusNames.contains name
  have hidden : kept name = false := by simpa [kept] using own
  exact filter_put hidden fields v

theorem withoutStatus_erase {name : Text} (own : name ∈ statusNames) (fields : Fields) :
    withoutStatus (erase fields name) = withoutStatus fields := by
  let kept : Text → Bool := fun name => !statusNames.contains name
  have hidden : kept name = false := by simpa [kept] using own
  exact filter_erase hidden fields

theorem withoutStatus_eq_self {fields : Fields}
    (plain : ∀ name ∈ keys fields, name ∉ statusNames) : withoutStatus fields = fields := by
  apply List.filter_eq_self.mpr
  intro field member
  simpa using plain field.1 (List.mem_map_of_mem member)

/-- The status that a branch ended with. -/
def PlatformResult.status (result : PlatformResult) : RecordStatus where
  success := some (.bool result.success)
  message := some (.string result.message)
  error := if result.error.isNull then none else some result.error

/-- The status that a delivery came to. -/
def SendOutcome.status (outcome : SendOutcome) : RecordStatus where
  success := some (.bool outcome.success)
  message := some (.string outcome.message)
  error := outcome.error.map .string

namespace PlatformResult

/-- The status of a result whose payload was delivered is what the delivery came to. -/
theorem status_ofDelivery (platform : Text) (payload : Fields)
    (outcome : Except Fault SendOutcome) :
    (ofDelivery platform payload outcome).status = (SendOutcome.settled platform outcome).status := by
  cases error : (SendOutcome.settled platform outcome).error with
  | none => simp [ofDelivery, ofOutcome, status, SendOutcome.status, error, Value.ofText, Value.isNull]
  | some text =>
    simp [ofDelivery, ofOutcome, status, SendOutcome.status, error, Value.ofText, Value.isNull]

/-- The payload under the success and the message of a branch. -/
def told (result : PlatformResult) : Fields :=
  put (put (erase result.payload "error") "success" (.bool result.success)) "message"
    (.string result.message)

theorem record_eq (result : PlatformResult) : result.record =
    if result.error.isNull then result.told else put result.told "error" result.error := rfl

theorem lookup?_told (result : PlatformResult) :
    lookup? result.told "success" = some (.bool result.success) ∧
      lookup? result.told "message" = some (.string result.message) := by
  have differ : Text.ofString "message" ≠ "success" := by decide
  constructor
  · rw [told, lookup?_put_of_ne _ _ differ, lookup?_put_self]
  · rw [told, lookup?_put_self]

theorem lookup?_told_error (result : PlatformResult) (distinct : Distinct result.payload) :
    lookup? result.told "error" = none := by
  have fromMessage : Text.ofString "message" ≠ "error" := by decide
  have fromSuccess : Text.ofString "success" ≠ "error" := by decide
  rw [told, lookup?_put_of_ne _ _ fromMessage, lookup?_put_of_ne _ _ fromSuccess,
    lookup?_erase_self distinct]

/-- Whatever the fields of a payload are called, the record has the status of the result. -/
theorem statusOf_record (result : PlatformResult) (distinct : Distinct result.payload) :
    statusOf result.record = result.status := by
  have fromSuccess : Text.ofString "error" ≠ "success" := by decide
  have fromMessage : Text.ofString "error" ≠ "message" := by decide
  obtain ⟨success, message⟩ := result.lookup?_told
  rw [record_eq, statusOf, status]
  split
  · rw [success, message, result.lookup?_told_error distinct]
  · rw [lookup?_put_of_ne _ _ fromSuccess, lookup?_put_of_ne _ _ fromMessage, lookup?_put_self,
      success, message]

/-- A record has the fields of the payload that are no status, as they are, and no other such. -/
theorem withoutStatus_record (result : PlatformResult) :
    withoutStatus result.record = withoutStatus result.payload := by
  have told : withoutStatus result.told = withoutStatus result.payload := by
    rw [told, withoutStatus_put (by decide), withoutStatus_put (by decide),
      withoutStatus_erase (by decide)]
  rw [record_eq]
  split
  · exact told
  · rw [withoutStatus_put (by decide), told]

theorem distinct_record (result : PlatformResult) (distinct : Distinct result.payload) :
    Distinct result.record := by
  have told : Distinct result.told :=
    distinct_put _ _ _ (distinct_put _ _ _ (distinct_erase distinct "error"))
  rw [record_eq]
  split
  · exact told
  · exact distinct_put _ _ _ told

end PlatformResult

end Records

section Senders

/-- A sender whose payloads bind every name once, as maps do. -/
def Sender.BuildsMaps (sender : Sender ω) : Prop := ∀ event fields s payload t,
  (sender.build event fields).outcome s = (.ok payload, t) → Distinct payload

theorem MetaSender.keys_payload {time : Instant} {event : Value} {fields payload : Fields}
    (builds : MetaSender.payload time event fields = .ok payload) :
    keys payload = ["event_name", "event_time", "action_source", "user_data", "custom_data"] := by
  unfold MetaSender.payload at builds
  cases routes : fields.foldlM route ⟨[], []⟩ with
  | error fault =>
    rw [routes] at builds
    cases builds
  | ok routed =>
    rw [routes] at builds
    cases builds
    rfl

theorem MetaSender.distinct_payload {time : Instant} {event : Value} {fields payload : Fields}
    (builds : MetaSender.payload time event fields = .ok payload) : Distinct payload := by
  rw [Distinct, keys_payload builds]
  decide

theorem MeasurementSender.distinct_payload (event : Value) (fields : Fields) :
    Distinct (MeasurementSender.payload event fields) :=
  show ([Text.ofString "event_name", "params"]).Nodup by decide

/-- The senders that the program brings along build maps. -/
theorem SenderKind.buildsMaps (kind : SenderKind) (channel : Channel) :
    (kind.sender channel : Sender ω).BuildsMaps := by
  intro event fields s payload t builds
  cases kind with
  | log platform =>
    cases builds
    exact LogSender.distinct_payload platform s.now event fields
  | conversions account =>
    exact MetaSender.distinct_payload (congrArg Prod.fst builds)
  | measurement account =>
    have built := (MeasurementSender.build_run account channel event fields s).symm.trans builds
    cases built
    exact MeasurementSender.distinct_payload event fields

end Senders

namespace Engine

variable {engine : Engine ω} {customer : Value} {event : EventData} {platform : Text}
  {mapping : Fields} {s u : Session ω} {result : PlatformResult}
  {sent : Option (Except Fault SendOutcome)}

/-- What is prepared was built from the fields that were read. -/
theorem build_of_prepare {sender : Sender ω} {payload : Fields} {v : Session ω}
    (prepares : (prepare sender event mapping).outcome u = (.ok payload, v)) :
    ∃ fields, DataLayer.readFields event.layer mapping = .ok fields ∧
      (sender.build event.name fields).outcome u = (.ok payload, v) := by
  rw [prepare, outcome_ofExcept_bind] at prepares
  cases reads : DataLayer.readFields event.layer mapping with
  | error fault =>
    rw [reads] at prepares
    cases prepares
  | ok fields =>
    rw [reads] at prepares
    exact ⟨fields, rfl, prepares⟩

/-- However a branch ends, its payload is a map. -/
theorem Ends.distinct_payload (maps : ∀ sender ∈ values engine.senders, sender.BuildsMaps)
    (ends : engine.Ends event platform mapping u result sent) : Distinct result.payload := by
  cases ends with
  | unserved absent => exact List.nodup_nil
  | unprepared served prepares => exact List.nodup_nil
  | @delivered sender payload v w outcome served prepares sends =>
    obtain ⟨fields, _, builds⟩ := build_of_prepare prepares
    exact maps sender (mem_values_of_lookup? served) event.name fields u payload v builds

/-- Once a payload was delivered, the status of the branch is up to the delivery alone. -/
theorem Ends.status {outcome : Except Fault SendOutcome}
    (ends : engine.Ends event platform mapping u result (some outcome)) :
    result.status = (SendOutcome.settled platform outcome).status := by
  cases ends with
  | delivered served prepares sends => exact PlatformResult.status_ofDelivery platform _ outcome

/-- Whatever the fields of a mapping are called and whatever stands in the data layer, the record
that is answered for a platform has the success, the message and the error that the branch ended
with, an error only if there was one, and under all other names the payload as it is and nothing
else. The event log, if there is one, is told of the event once, and it lists the platform exactly
if the record says that it succeeded. Once a payload was delivered, the status in the record is
known from the platform and from what the delivery came to. -/
theorem process_status (maps : ∀ sender ∈ values engine.senders, sender.BuildsMaps)
    (starts : engine.BranchStarts customer event s platform mapping u) :
    ∃ records record result sent,
      ((engine.process customer event).outcome s).1 = .ok records ∧
      lookup? records platform = some record ∧
      engine.Ends event platform mapping u result sent ∧
      statusOf record = result.status ∧
      withoutStatus record = withoutStatus result.payload ∧
      Distinct record ∧
      engine.Lists customer event s platform (lookup? record "success" = some (.bool true)) ∧
      ∀ outcome, sent = some outcome →
        statusOf record = (SendOutcome.settled platform outcome).status := by
  obtain ⟨records, result, after, answer, runs, bound, lists⟩ := process_of_branchStarts starts
  obtain ⟨_, sent, _, runs', ends⟩ := engine.branch_ends event platform mapping u
  rw [runs] at runs'
  cases runs'
  have distinct := ends.distinct_payload maps
  refine ⟨records, result.record, result, sent, answer, bound, ends,
    result.statusOf_record distinct, result.withoutStatus_record, result.distinct_record distinct,
    ?_, ?_⟩
  · apply lists.congr
    rw [result.success_record]
    simp
  · rintro outcome rfl
    rw [result.statusOf_record distinct, ends.status]

/-- A page that pushes a status of its own does not change the one that is answered. -/
theorem process_status_forged :
    let mapping : Fields := [("success", .string "refused"), ("message", .string "claimed"),
      ("error", .string "claimed"), ("event_name", .string "claimed")]
    let engine : Engine Unit :=
      .single (.single "acme" "purchase" "facebook" mapping) "facebook" (LogSender.sender .facebook)
    let layer : Value := .object [("refused", .bool false), ("claimed", .string "forged")]
    let event : EventData := ⟨.string "purchase", layer⟩
    (∀ sender ∈ values engine.senders, sender.BuildsMaps) ∧
      engine.BranchStarts (.string "acme") event (.initial ()) "facebook" mapping (.initial ()) ∧
      ∃ records record,
        ((engine.process (.string "acme") event).outcome (.initial ())).1 = .ok records ∧
        lookup? records "facebook" = some record ∧
        statusOf record = (SendOutcome.taken .facebook).status := by
  intro mapping engine layer event
  have maps : ∀ sender ∈ values engine.senders, sender.BuildsMaps :=
    List.forall_mem_singleton.mpr (SenderKind.buildsMaps (.log .facebook) (.sender "facebook"))
  have texts : ∀ field ∈ mapping, ∃ path, field.2 = .string path := by
    intro field member
    simp only [mapping, List.mem_cons, List.not_mem_nil, or_false] at member
    rcases member with rfl | rfl | rfl | rfl <;> exact ⟨_, rfl⟩
  have starts : engine.BranchStarts (.string "acme") event (.initial ()) "facebook" mapping
      (.initial ()) :=
    branchStarts_single (by decide) texts rfl (LogSender.sender .facebook) layer (.initial ())
  obtain ⟨records, record, result, sent, answer, bound, ends, _, _, _, _, told⟩ :=
    process_status maps starts
  obtain ⟨_, taken⟩ := ends.eq_of_prepared rfl rfl rfl
  exact ⟨maps, starts, records, record, answer, bound, told _ taken⟩

end Engine

end ConversionRelay
