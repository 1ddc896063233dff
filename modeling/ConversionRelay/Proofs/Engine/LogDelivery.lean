import ConversionRelay.Proofs.DataLayer
import ConversionRelay.Proofs.Engine.Loading
/-!
Deliveries to the log senders.

Where every path of a mapping can be followed, the branch of a platform with a log sender succeeds,
and its result is answered as the payload with the status behind it. Branches that end in the log do
not disturb each other, and neither does the event log afterwards.

Main statement: an event that is mapped to platforms with log senders is answered by the records of
the fields that were read for them (`Engine.deliver_logged`).
-/
namespace ConversionRelay

open OrderedMap

variable {ω : Type}

section Records

/-- The status of a delivery that was taken. -/
def takenStatus (platform : Platform) : Fields :=
  [("success", .bool true), ("message", .string (platform.label ++ " sent"))]

/-- The record that is answered for a platform with a log sender. -/
def loggedRecord (platform : Platform) (time : Instant) (event : Value) (fields : Fields) :
    Fields :=
  let payload : Fields := match platform with
    | .facebook => ("event_name", event) :: ("event_time", .int time.unixSeconds) :: fields
    | .ga4 => [("event_name", event), ("params", .object fields)]
    | .googleAds => [("event_name", event), ("payload", .object fields)]
  payload ++ takenStatus platform

/-- The names that the status of a record uses. -/
def statusNames : List Text := ["error", "success", "message"]

/-- A payload without a status is answered with the status at its end. -/
theorem record_taken {platform : Platform} {payload : Fields}
    (plain : ∀ name ∈ keys payload, name ∉ statusNames) :
    (PlatformResult.ofOutcome payload (.taken platform)).record =
      payload ++ takenStatus platform := by
  have error : Text.ofString "error" ∉ keys payload := fun member => plain _ member (by decide)
  have success : Text.ofString "success" ∉ keys payload := fun member => plain _ member (by decide)
  have message : Text.ofString "message" ∉
      keys (payload ++ ([("success", .bool true)] : Fields)) := by
    intro member
    rcases List.mem_append.mp (by simpa only [keys, List.map_append] using member) with old | new
    · exact plain _ old (by decide)
    · exact absurd (List.mem_singleton.mp new) (by decide)
  have status : put (put (erase payload "error") "success" (.bool true)) "message"
      (.string (platform.label ++ " sent")) = payload ++ takenStatus platform := by
    rw [erase_of_not_mem error, put_of_not_mem success, put_of_not_mem message, List.append_assoc]
    rfl
  exact status

/-- Names that are told apart from each other and from those that records use themselves. -/
def PlainNames (names : List Text) : Prop :=
  names.Nodup ∧ ∀ name ∈ names, name ∉ statusNames ∧ name ≠ "event_name" ∧ name ≠ "event_time"

instance : DecidablePred PlainNames := fun names =>
  inferInstanceAs (Decidable (names.Nodup ∧ ∀ name ∈ names,
    name ∉ statusNames ∧ name ≠ "event_name" ∧ name ≠ "event_time"))

theorem PlainNames.sublist {names fewer : List Text} (plain : PlainNames names)
    (sublist : fewer.Sublist names) : PlainNames fewer :=
  ⟨plain.1.sublist sublist, fun name member => plain.2 name (sublist.subset member)⟩

/-- What a log sender delivers is answered by its record, unless a field has a name of a record. -/
theorem record_logged (platform : Platform) (time : Instant) (event : Value) {fields : Fields}
    (plain : PlainNames (keys fields)) :
    (PlatformResult.ofOutcome (LogSender.payload platform time event fields)
      (.taken platform)).record = loggedRecord platform time event fields := by
  obtain ⟨distinct, free⟩ := plain
  cases platform with
  | facebook =>
    let head : Fields := [("event_name", event), ("event_time", .int time.unixSeconds)]
    have differ : Text.ofString "event_name" ≠ "event_time" := by decide
    have apart : Distinct (head ++ fields) := by
      refine List.nodup_cons.mpr ⟨fun member => ?_,
        List.nodup_cons.mpr ⟨fun member => ?_, distinct⟩⟩
      · rcases List.mem_cons.mp member with same | member
        · exact differ same
        · exact (free _ member).2.1 rfl
      · exact (free _ member).2.2 rfl
    have laid : LogSender.payload .facebook time event fields = head ++ fields :=
      update_of_distinct apart
    rw [laid]
    refine record_taken fun name member => ?_
    rcases List.mem_append.mp (by simpa only [keys, List.map_append] using member) with own | given
    · exact (show ∀ name ∈ ([Text.ofString "event_name", "event_time"] : List Text),
        name ∉ statusNames by decide) name own
    · exact (free name given).1
  | ga4 =>
    exact record_taken (show ∀ name ∈ ([Text.ofString "event_name", "params"] : List Text),
      name ∉ statusNames by decide)
  | googleAds =>
    exact record_taken (show ∀ name ∈ ([Text.ofString "event_name", "payload"] : List Text),
      name ∉ statusNames by decide)

end Records

section Branches

variable {engine : Engine ω}

/-- The branch of a platform with a log sender leaves a line with its payload. -/
theorem Engine.branch_logged {platform : Platform} {event : EventData} {mapping fields : Fields}
    (served : lookup? engine.senders platform.key = some (LogSender.sender platform))
    (reads : DataLayer.readFields event.layer mapping = .ok fields) (s : Session ω) :
    ∃ journal, (engine.branch event platform.key mapping).outcome s =
      (.ok (.ofOutcome (LogSender.payload platform s.now event.name fields) (.taken platform)),
        { s with journal }) := by
  have prepares : (prepare (LogSender.sender platform) event mapping).outcome s =
      (.ok (LogSender.payload platform s.now event.name fields), s) := prepare_run reads s
  let payload := LogSender.payload platform s.now event.name fields
  refine ⟨s.journal ++ [.logged ⟨.info, .senders, LogSender.line platform (.object payload)⟩], ?_⟩
  rw [branch, served]
  dsimp only
  rw [Run.outcome_bind_attempt prepares]
  rfl

/-- The branches of platforms with log senders all succeed, each with the fields read for it. -/
theorem Engine.branches_logged {event : EventData} {plan : List (Platform × Fields)}
    (served : ∀ platform : Platform,
      lookup? engine.senders platform.key = some (LogSender.sender platform))
    (readable : ∀ entry ∈ plan, ∀ field ∈ entry.2, DataLayer.Readable event.layer field.2)
    (s : Session ω) :
    ∃ journal, (engine.branches event (plan.map fun entry => (entry.1.key, entry.2))).outcome s =
      (.ok (plan.map fun entry => (entry.1.key, .ofOutcome
        (LogSender.payload entry.1 s.now event.name (DataLayer.valuesAt event.layer entry.2))
        (.taken entry.1))), { s with journal }) := by
  induction plan generalizing s with
  | nil => exact ⟨s.journal, rfl⟩
  | cons entry rest ih =>
    obtain ⟨journal, first⟩ := branch_logged (served entry.1)
      (DataLayer.readFields_of_readable (readable entry List.mem_cons_self)) s
    obtain ⟨journal', later⟩ := ih (fun other member =>
      readable other (List.mem_cons_of_mem _ member)) { s with journal }
    refine ⟨journal', ?_⟩
    rw [List.map_cons, branches, Run.outcome_bind_ok first, Run.outcome_bind_ok later]
    rfl

/-- An event that is mapped to platforms with log senders is answered by the records of the fields
that were read for them. -/
theorem Engine.deliver_logged {customer : Value} {event : EventData} {config : EventConfig}
    {plan : List (Platform × Fields)} (unhooked : engine.hook = none)
    (served : ∀ platform : Platform,
      lookup? engine.senders platform.key = some (LogSender.sender platform))
    (planned : config.mappings = plan.map fun entry => (entry.1.key, entry.2))
    (readable : ∀ entry ∈ plan, ∀ field ∈ entry.2, DataLayer.Readable event.layer field.2)
    (plain : ∀ entry ∈ plan, PlainNames (keys entry.2)) (s : Session ω) :
    ((engine.deliver customer event config).outcome s).1 = .ok (plan.map fun entry =>
      (entry.1.key, loggedRecord entry.1 s.now event.name
        (DataLayer.valuesAt event.layer entry.2))) := by
  have passes : (engine.passes customer event).outcome s = (.ok true, s) := by
    rw [passes, unhooked]
    rfl
  obtain ⟨journal, branched⟩ := branches_logged served readable s
  obtain ⟨t, logs, _⟩ := engine.logEvent_run customer event _ { s with journal }
  rw [deliver, Run.outcome_bind_ok passes, if_pos rfl, planned, Run.outcome_bind_ok branched,
    Run.outcome_bind_ok logs, Run.outcome_pure, List.map_map]
  refine congrArg Except.ok (List.map_congr_left fun entry member => ?_)
  have fewer := (plain entry member).sublist (DataLayer.keys_valuesAt event.layer entry.2)
  exact congrArg (entry.1.key, ·) (record_logged entry.1 s.now event.name fewer)

end Branches

end ConversionRelay
