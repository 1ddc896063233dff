import ConversionRelay.Proofs.Config.Generation
import ConversionRelay.Proofs.DataLayer
import ConversionRelay.Proofs.Engine.ExactlyOnce
import ConversionRelay.Proofs.Exchange
/-!
How the branch of a platform ends, and what becomes of its result.

A branch always ends with a result: nobody serves the platform, or no payload can be prepared, or a
payload is delivered and the delivery comes to something. While an event is processed, the branch of
a platform starts in the session that the branches in front of it leave behind. Its result is what
the caller finds under the platform, and what decides whether the event log lists the platform.

Main statements: every platform that a dispatched event is mapped to has a branch that starts
somewhere (`Engine.exists_branchStarts`), the record of the platform is the result of that branch,
and the entry of the event log lists the platform exactly if that was a success
(`Engine.process_of_branchStarts`).
-/
namespace ConversionRelay

open OrderedMap Run

variable {ω : Type}

/-- What a delivery to a platform comes to for the engine: a fault is a delivery that failed. -/
def SendOutcome.settled (platform : Text) : Except Fault SendOutcome → SendOutcome
  | .ok outcome => outcome
  | .error fault => ⟨false, platform ++ " send failed", some fault.text⟩

/-- The result of a branch whose payload was delivered. -/
def PlatformResult.ofDelivery (platform : Text) (payload : Fields)
    (outcome : Except Fault SendOutcome) : PlatformResult :=
  .ofOutcome payload (.settled platform outcome)

namespace Engine

variable {engine : Engine ω} {customer : Value} {event : EventData} {platform : Text}
  {mapping : Fields} {sender : Sender ω} {s t u v w : Session ω}

section Branches

theorem branchFailed_run (platform : Text) (event : EventData) (payload : Fields) (fault : Fault)
    (s : Session ω) : ∃ after, (branchFailed platform event payload fault).outcome s =
      (.ok (.failed (platform ++ " send failed") payload fault.text), after) ∧ s.OnLine after :=
  ⟨_, rfl, onLine_log _ _ _ s⟩

/-- A branch whose payload cannot be prepared fails, and nothing is delivered. -/
theorem branch_of_unprepared (served : lookup? engine.senders platform = some sender)
    {fault : Fault} (prepares : (prepare sender event mapping).outcome u = (.error fault, v)) :
    ∃ after, (engine.branch event platform mapping).outcome u =
      (.ok (.failed (platform ++ " send failed") [] fault.text), after) ∧ v.OnLine after := by
  rw [branch, served]
  dsimp only
  rw [outcome_bind_attempt prepares]
  exact branchFailed_run platform event [] fault v

/-- A branch whose payload is prepared ends with what the delivery comes to. -/
theorem branch_of_prepared (served : lookup? engine.senders platform = some sender)
    {payload : Fields} (prepares : (prepare sender event mapping).outcome u = (.ok payload, v))
    {outcome : Except Fault SendOutcome}
    (sends : (sender.send (.object payload)).outcome v = (outcome, w)) :
    ∃ after, (engine.branch event platform mapping).outcome u =
      (.ok (.ofDelivery platform payload outcome), after) ∧ w.OnLine after := by
  rw [branch, served]
  dsimp only
  rw [outcome_bind_attempt prepares]
  dsimp only
  rw [outcome_bind_attempt sends]
  cases outcome with
  | ok outcome => exact ⟨w, rfl, .refl w⟩
  | error fault => exact branchFailed_run platform event payload fault w

/-- How the branch of a platform ends that starts in a session: with a result, and with what the
delivery of the payload came to, if there was one. -/
inductive Ends (engine : Engine ω) (event : EventData) (platform : Text) (mapping : Fields)
    (u : Session ω) : PlatformResult → Option (Except Fault SendOutcome) → Prop
  | unserved (absent : lookup? engine.senders platform = none) :
      Ends engine event platform mapping u
        (.failed ("No sender registered for platform: " ++ platform) [] "unsupported_platform") none
  | unprepared {sender : Sender ω} {fault : Fault} {v : Session ω}
      (served : lookup? engine.senders platform = some sender)
      (prepares : (prepare sender event mapping).outcome u = (.error fault, v)) :
      Ends engine event platform mapping u
        (.failed (platform ++ " send failed") [] fault.text) none
  | delivered {sender : Sender ω} {payload : Fields} {v w : Session ω}
      {outcome : Except Fault SendOutcome}
      (served : lookup? engine.senders platform = some sender)
      (prepares : (prepare sender event mapping).outcome u = (.ok payload, v))
      (sends : (sender.send (.object payload)).outcome v = (outcome, w)) :
      Ends engine event platform mapping u (.ofDelivery platform payload outcome) (some outcome)

/-- A payload that is prepared is delivered, and what the delivery comes to is the end. -/
theorem Ends.eq_of_prepared {result : PlatformResult} {sent : Option (Except Fault SendOutcome)}
    (ends : engine.Ends event platform mapping u result sent)
    (served : lookup? engine.senders platform = some sender) {payload : Fields}
    (prepares : (prepare sender event mapping).outcome u = (.ok payload, v))
    {outcome : Except Fault SendOutcome}
    (sends : (sender.send (.object payload)).outcome v = (outcome, w)) :
    result = .ofDelivery platform payload outcome ∧ sent = some outcome := by
  cases ends with
  | unserved absent =>
    rw [served] at absent
    cases absent
  | unprepared served' prepares' =>
    rw [served] at served'
    cases served'
    rw [prepares] at prepares'
    cases prepares'
  | delivered served' prepares' sends' =>
    rw [served] at served'
    cases served'
    rw [prepares] at prepares'
    cases prepares'
    rw [sends] at sends'
    cases sends'
    exact ⟨rfl, rfl⟩

/-- Every branch ends. -/
theorem branch_ends (engine : Engine ω) (event : EventData) (platform : Text) (mapping : Fields)
    (u : Session ω) : ∃ result sent after,
      (engine.branch event platform mapping).outcome u = (.ok result, after) ∧
      engine.Ends event platform mapping u result sent := by
  cases served : lookup? engine.senders platform with
  | none =>
    let message : Text := "No sender registered for platform: " ++ platform
    have runs : (engine.branch event platform mapping).outcome u =
        (.ok (.failed message [] "unsupported_platform"),
          ((Run.log .warning .engine message).outcome u).2) := by
      rw [branch, served]
      rfl
    exact ⟨_, none, _, runs, .unserved served⟩
  | some sender =>
    rcases prepares : (prepare sender event mapping).outcome u with ⟨fault | payload, v⟩
    · obtain ⟨after, runs, _⟩ := branch_of_unprepared served prepares
      exact ⟨_, none, after, runs, .unprepared served prepares⟩
    · rcases sends : (sender.send (.object payload)).outcome v with ⟨outcome, w⟩
      obtain ⟨after, runs, _⟩ := branch_of_prepared served prepares sends
      exact ⟨_, some outcome, after, runs, .delivered served prepares sends⟩

end Branches

section Runs

/-- The session in which a branch starts that comes behind others: what these leave. -/
def sessionAfter (engine : Engine ω) (event : EventData) (before : PlatformMappings)
    (t : Session ω) : Session ω := ((engine.branches event before).outcome t).2

theorem branches_cons_run {rest : PlatformMappings} {result : PlatformResult}
    {results : OrderedMap Text PlatformResult}
    (runs : (engine.branch event platform mapping).outcome s = (.ok result, t))
    (later : (engine.branches event rest).outcome t = (.ok results, u)) :
    (engine.branches event ((platform, mapping) :: rest)).outcome s =
      (.ok ((platform, result) :: results), u) := by
  rw [branches, outcome_bind_ok runs, outcome_bind_ok later]
  rfl

theorem branches_end (engine : Engine ω) (event : EventData) (mappings : PlatformMappings)
    (s : Session ω) : ∃ results after, (engine.branches event mappings).outcome s =
      (.ok results, after) := by
  induction mappings generalizing s with
  | nil => exact ⟨[], s, rfl⟩
  | cons entry rest ih =>
    obtain ⟨result, _, t, runs, _⟩ := engine.branch_ends event entry.1 entry.2 s
    obtain ⟨results, after, later⟩ := ih t
    exact ⟨_, after, branches_cons_run runs later⟩

theorem sessionAfter_cons {entry : Text × Fields} {result : PlatformResult}
    (leads : (engine.branch event entry.1 entry.2).outcome s = (.ok result, t))
    (rest : PlatformMappings) :
    engine.sessionAfter event (entry :: rest) s = engine.sessionAfter event rest t := by
  obtain ⟨results, u, passes⟩ := engine.branches_end event rest t
  rw [sessionAfter, sessionAfter, branches_cons_run leads passes, passes]

/-- Among the results is the one that the branch of a platform ends with where the branches in front
of it left off. -/
theorem branches_split (engine : Engine ω) (event : EventData) (before : PlatformMappings)
    (platform : Text) (mapping : Fields) (others : PlatformMappings) (s : Session ω) :
    ∃ results after result next,
      (engine.branches event (before ++ (platform, mapping) :: others)).outcome s =
        (.ok results, after) ∧
      (engine.branch event platform mapping).outcome (engine.sessionAfter event before s) =
        (.ok result, next) ∧
      (platform, result) ∈ results := by
  induction before generalizing s with
  | nil =>
    obtain ⟨result, _, next, runs, _⟩ := engine.branch_ends event platform mapping s
    obtain ⟨results, after, later⟩ := engine.branches_end event others next
    exact ⟨_, after, result, next, branches_cons_run runs later, runs, List.mem_cons_self⟩
  | cons entry rest ih =>
    obtain ⟨first, _, t, leads, _⟩ := engine.branch_ends event entry.1 entry.2 s
    obtain ⟨results, after, result, next, later, runs, member⟩ := ih t
    refine ⟨_, after, result, next, branches_cons_run leads later, ?_, List.mem_cons_of_mem _ member⟩
    rw [sessionAfter_cons leads]
    exact runs

/-- While an event is processed, the branch of a platform starts in a session: the one that the
branches in front of it leave behind. -/
def BranchStarts (engine : Engine ω) (customer : Value) (event : EventData) (s : Session ω)
    (platform : Text) (mapping : Fields) (u : Session ω) : Prop :=
  ∃ t found before others, engine.Dispatches customer event s t found ∧
    found.mappings = before ++ (platform, mapping) :: others ∧
    u = engine.sessionAfter event before t

/-- A dispatched event has a branch for every platform that it is mapped to. -/
theorem exists_branchStarts {found : EventConfig}
    (dispatches : engine.Dispatches customer event s t found)
    (mapped : (platform, mapping) ∈ found.mappings) :
    ∃ u, engine.BranchStarts customer event s platform mapping u := by
  obtain ⟨before, others, split⟩ := List.append_of_mem mapped
  exact ⟨_, t, found, before, others, dispatches, split, rfl⟩

/-- Without a hook, the first branch of an event starts where its configuration was loaded. -/
theorem branchStarts_of_first {config : CustomerConfig} {found : EventConfig}
    {others : PlatformMappings} (hookless : engine.hook = none)
    (loads : (engine.loadConfig customer).outcome s = (.ok (some config), t))
    (mapped : config.event? event.name = some found)
    (first : found.mappings = (platform, mapping) :: others) :
    engine.BranchStarts customer event s platform mapping t := by
  have passes : (engine.passes customer event).outcome t = (.ok true, t) := by
    rw [Engine.passes, hookless]
    rfl
  exact ⟨t, found, [], others, ⟨config, t, loads, mapped, passes⟩, first, rfl⟩

/-- An engine that keeps one configuration, serves one platform and writes an event log. -/
def single (config : CustomerConfig) (platform : Text) (sender : Sender ω) : Engine ω where
  store := ⟨fun _ => pure (some config.stored), fun _ => pure ()⟩
  log := some ⟨fun _ => pure ()⟩
  senders := [(platform, sender)]
  hook := none

/-- The branch of a single platform starts where the event does, if the paths of its mapping are
texts and nothing in the configuration is changed by storing it. -/
theorem branchStarts_single {customer name platform : Text} {mapping : Fields}
    (distinct : Distinct mapping) (texts : ∀ field ∈ mapping, ∃ path, field.2 = .string path)
    (same : (CustomerConfig.single customer name platform mapping).reread =
      .single customer name platform mapping) (sender : Sender ω) (layer : Value)
    (s : Session ω) :
    (single (.single customer name platform mapping) platform sender).BranchStarts
      (.string customer) ⟨.string name, layer⟩ s platform mapping s := by
  have reads := CustomerConfig.ofText_single customer name platform distinct texts
  rw [same] at reads
  have mapped : (CustomerConfig.single customer name platform mapping).event? (.string name) =
      some ⟨.string name, [(platform, mapping)]⟩ := by
    rw [CustomerConfig.event?, CustomerConfig.single, List.find?_cons_of_pos]
    rw [equal_string]
    exact beq_self_eq_true name
  exact branchStarts_of_first rfl (loadConfig_run rfl reads) mapped rfl

/-- What an event is dispatched by stands in a configuration that was read. -/
theorem read_of_dispatches {found : EventConfig}
    (dispatches : engine.Dispatches customer event s t found) :
    ∃ config document, CustomerConfig.ofText document = .ok config ∧ found ∈ config.events := by
  obtain ⟨config, loaded, loads, mapped, _⟩ := dispatches
  obtain ⟨_, _, ends, readable⟩ := engine.loadConfig_ends customer s
  rw [loads] at ends
  cases ends
  obtain ⟨document, reads⟩ := readable config rfl
  exact ⟨config, document, reads, List.mem_of_find?_eq_some mapped⟩

/-- A mapping that a branch starts with tells its fields apart by their names. -/
theorem distinct_mapping_of_branchStarts
    (starts : engine.BranchStarts customer event s platform mapping u) : Distinct mapping := by
  obtain ⟨_, found, before, others, dispatches, split, _⟩ := starts
  obtain ⟨_, _, read, member⟩ := read_of_dispatches dispatches
  have mapped : (platform, mapping) ∈ found.mappings := by
    rw [split]
    exact List.mem_append_right _ List.mem_cons_self
  exact CustomerConfig.distinct_mapping_of_ofText read member mapped

/-- The fields that are read for a branch are told apart by their names. -/
theorem distinct_of_branchStarts
    (starts : engine.BranchStarts customer event s platform mapping u) {fields : Fields}
    (reads : DataLayer.readFields event.layer mapping = .ok fields) : Distinct fields :=
  (distinct_mapping_of_branchStarts starts).sublist (DataLayer.keys_readFields reads)

/-- For an event, an engine with an event log writes one entry, and the entry lists a platform
exactly if `reached` holds. -/
structure Lists (engine : Engine ω) (customer : Value) (event : EventData) (s : Session ω)
    (platform : Text) (reached : Prop) : Prop where
  once : (Call.entries (engine.calls customer event s)).length = engine.log.toList.length
  listed : ∀ entry ∈ Call.entries (engine.calls customer event s),
    platform ∈ entry.platforms ↔ reached

theorem Lists.congr {reached reached' : Prop}
    (lists : engine.Lists customer event s platform reached) (same : reached ↔ reached') :
    engine.Lists customer event s platform reached' :=
  ⟨lists.once, fun entry member => (lists.listed entry member).trans same⟩

/-- Whether a platform was reached is what its own result says. -/
theorem mem_reached_iff {results : OrderedMap Text PlatformResult} (distinct : Distinct results)
    {result : PlatformResult} (member : (platform, result) ∈ results) :
    platform ∈ reached results ↔ result.success = true := by
  constructor
  · intro listed
    obtain ⟨entry, kept, named⟩ := List.mem_map.mp listed
    obtain ⟨among, success⟩ := List.mem_filter.mp kept
    have bound : lookup? results platform = some entry.2 := lookup?_of_mem distinct (named ▸ among)
    rw [lookup?_of_mem distinct member] at bound
    cases bound
    exact success
  · exact fun success => List.mem_map.mpr ⟨_, List.mem_filter.mpr ⟨member, success⟩, rfl⟩

/-- The branches of an event answer with a result for every platform that it is mapped to. -/
theorem keys_of_branches {mappings : PlatformMappings} {results : OrderedMap Text PlatformResult}
    (runs : (engine.branches event mappings).outcome s = (.ok results, t)) :
    keys results = keys mappings := by
  induction mappings generalizing results s with
  | nil =>
    cases runs
    rfl
  | cons entry rest ih =>
    obtain ⟨first, _, u, leads, _⟩ := engine.branch_ends event entry.1 entry.2 s
    obtain ⟨others, v, later⟩ := engine.branches_end event rest u
    rw [branches_cons_run leads later] at runs
    cases runs
    rw [keys_cons, keys_cons, ih later]

/-- The record of a platform is the result of its branch, and the entry of the event log lists the
platform exactly if that was a success. -/
theorem process_of_branchStarts (starts : engine.BranchStarts customer event s platform mapping u) :
    ∃ records result after,
      ((engine.process customer event).outcome s).1 = .ok records ∧
      (engine.branch event platform mapping).outcome u = (.ok result, after) ∧
      lookup? records platform = some result.record ∧
      engine.Lists customer event s platform (result.success = true) := by
  obtain ⟨t, found, before, others, dispatches, split, rfl⟩ := starts
  obtain ⟨results, passed, result, after, branches, runs, among⟩ :=
    engine.branches_split event before platform mapping others t
  rw [← split] at branches
  have distinct : Distinct results := by
    obtain ⟨_, _, read, isEvent⟩ := read_of_dispatches dispatches
    rw [Distinct, keys_of_branches branches]
    exact CustomerConfig.distinct_of_ofText read isEvent
  have answer : ((engine.process customer event).outcome s).1 =
      .ok (results.map fun entry => (entry.1, entry.2.record)) := by
    obtain ⟨last, logs, _⟩ := engine.logEvent_run customer event results passed
    rw [process_of_dispatches dispatches, dispatch, outcome_bind_ok branches, outcome_bind_ok logs]
    rfl
  refine ⟨_, result, after, answer, runs, ?_, ?_⟩
  · rw [lookup?_map, lookup?_of_mem distinct among]
    rfl
  · -- The watched run tells the entries by results of its own, whose records are the same.
    obtain ⟨noted, branched, time, done, answer', _, toSenders, calls⟩ :=
      calls_of_dispatches dispatches trivial (engine.branches_gives event found.mappings)
    rw [answer] at answer'
    have same : reached noted = reached results := by
      rw [← succeeded_records, ← succeeded_records, Except.ok.inj answer']
    have written : Call.entries (engine.calls customer event s) =
        engine.log.toList.map fun _ => ⟨customer, event.name, reached noted, time⟩ := by
      rw [calls, Call.entries_around fun call made =>
        (toSenders call made).imp fun _ called => called.2]
    constructor
    · rw [written, List.length_map]
    · intro entry member
      rw [written] at member
      obtain ⟨_, _, rfl⟩ := List.mem_map.mp member
      change platform ∈ reached noted ↔ _
      rw [same]
      exact mem_reached_iff distinct among

end Runs

end Engine

end ConversionRelay
