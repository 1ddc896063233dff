import ConversionRelay.Proofs.Engine.Loading
import ConversionRelay.Proofs.OrderedMap
/-!
Watching which calls an engine makes.

The hook, the senders and the event log of an engine are parties that it is given, so what reaches
them cannot be told from a session. A watched engine has the same parties, each of which notes in
the session what it is called with and what it answers. `Traces` relates a computation to the
watched one: the watched one does the same and notes some calls more, all of a certain kind. It is
kept by sequencing, so it passes from the parties to everything that the engine does with them.

Main statement: a watched engine answers as the engine does, and leaves the same behind but for the
calls that it notes (`Engine.process_watched`).
-/
namespace ConversionRelay

/-- A call to a party of an engine, and what came of it. -/
inductive Call where
  | asked (customer : Value) (event : EventData) (answer : Except Fault Bool)
  | built (platform : Text) (event : Value) (fields : Fields) (payload : Except Fault Fields)
  | sent (platform : Text) (payload : Value) (outcome : Except Fault SendOutcome)
  | wrote (entry : LogEntry) (done : Except Fault Unit)

/-- The platform to whose sender a call goes, if it goes to one. -/
def Call.platform? : Call → Option Text
  | built platform .. => some platform
  | sent platform .. => some platform
  | _ => none

/-- The entry that a call writes to the event log, if it writes one. -/
def Call.entry? : Call → Option LogEntry
  | wrote entry _ => some entry
  | _ => none

/-- The calls that go to the sender of a platform. -/
def Call.callsTo (platform : Text) (calls : List Call) : List Call :=
  calls.filter fun call => call.platform? == some platform

/-- The calls that do not go to the sender of a platform. -/
def Call.callsBut (platform : Text) (calls : List Call) : List Call :=
  calls.filter fun call => call.platform? != some platform

/-- The entries that are written to the event log. -/
def Call.entries (calls : List Call) : List LogEntry := calls.filterMap Call.entry?

namespace Call

theorem callsTo_append (platform : Text) (calls more : List Call) :
    callsTo platform (calls ++ more) = callsTo platform calls ++ callsTo platform more :=
  List.filter_append calls more

theorem callsTo_eq_nil {platform : Text} {calls : List Call}
    (elsewhere : ∀ call ∈ calls, call.platform? ≠ some platform) : callsTo platform calls = [] :=
  List.filter_eq_nil_iff.mpr fun call member => by simpa using elsewhere call member

/-- Calls to the senders of other platforms are none to the sender of a platform. -/
theorem callsTo_of_elsewhere {platform : Text} {platforms : List Text} {calls : List Call}
    (absent : platform ∉ platforms)
    (elsewhere : ∀ call ∈ calls, ∃ other ∈ platforms, call.platform? = some other) :
    callsTo platform calls = [] := by
  refine callsTo_eq_nil fun call member own => ?_
  obtain ⟨other, isOther, is⟩ := elsewhere call member
  rw [own] at is
  exact absent (Option.some.inj is ▸ isOther)

theorem callsTo_of_other {platform other : Text} {calls : List Call} (differ : platform ≠ other)
    (own : ∀ call ∈ calls, call.platform? = some other) : callsTo platform calls = [] := by
  have absent : platform ∉ [other] := fun member => differ (List.mem_singleton.mp member)
  exact callsTo_of_elsewhere absent fun call member =>
    ⟨other, List.mem_cons_self, own call member⟩

theorem callsBut_append (platform : Text) (calls more : List Call) :
    callsBut platform (calls ++ more) = callsBut platform calls ++ callsBut platform more :=
  List.filter_append calls more

theorem callsBut_eq_nil {platform : Text} {calls : List Call}
    (own : ∀ call ∈ calls, call.platform? = some platform) : callsBut platform calls = [] :=
  List.filter_eq_nil_iff.mpr fun call member => by simp [own call member]

/-- Leaving out the calls to one platform leaves those to another. -/
theorem callsTo_callsBut {platform sibling : Text} (other : sibling ≠ platform)
    (calls : List Call) : callsTo sibling (callsBut platform calls) = callsTo sibling calls := by
  rw [callsTo, callsBut, List.filter_filter]
  refine List.filter_congr fun call _ => ?_
  by_cases own : call.platform? = some sibling
  · simp [own, other]
  · simp [own]

theorem entries_append (calls more : List Call) :
    entries (calls ++ more) = entries calls ++ entries more := List.filterMap_append

theorem entries_eq_nil {calls : List Call} (none : ∀ call ∈ calls, call.entry? = none) :
    entries calls = [] := List.filterMap_eq_nil_iff.mpr none

theorem entry?_of_platform? {call : Call} {platform : Text}
    (called : call.platform? = some platform) : call.entry? = none := by
  cases call with
  | wrote entry done => cases called
  | _ => rfl

end Call

/-- The state of parties that are watched: theirs, and the calls noted so far. -/
abbrev Watched (ω : Type) := ω × List Call

variable {ω α β : Type}

namespace Session

/-- A session in which calls have been noted. -/
def watched (s : Session ω) (calls : List Call) : Session (Watched ω) :=
  { s with party := (s.party, calls) }

/-- A session without the calls noted in it. -/
def unwatched (s : Session (Watched ω)) : Session ω := { s with party := s.party.1 }

end Session

namespace Run

/-- A computation of a party that notes calls according to its result. -/
def noting (calls : Except Fault α → List Call) (x : Run ω α) : Run (Watched ω) α :=
  ofStep fun s =>
    let (result, after) := x.outcome s.unwatched
    (result, after.watched (s.party.2 ++ calls result))

theorem outcome_noting (calls : Except Fault α → List Call) (x : Run ω α) (s : Session ω)
    (before : List Call) : (x.noting calls).outcome (s.watched before) =
      ((x.outcome s).1, (x.outcome s).2.watched (before ++ calls (x.outcome s).1)) := rfl

end Run

/-- A configuration store whose calls are not noted. -/
def ConfigStore.watched (store : ConfigStore ω) : ConfigStore (Watched ω) where
  get customer := (store.get customer).noting fun _ => []
  save config := (store.save config).noting fun _ => []

/-- An event log that notes what is written to it. -/
def EventLog.watched (log : EventLog ω) : EventLog (Watched ω) where
  write entry := (log.write entry).noting fun done => [.wrote entry done]

/-- A sender that notes what it builds and sends for a platform. -/
def Sender.watched (platform : Text) (sender : Sender ω) : Sender (Watched ω) where
  build event fields := (sender.build event fields).noting fun payload =>
    [.built platform event fields payload]
  send payload := (sender.send payload).noting fun outcome => [.sent platform payload outcome]

/-- An engine whose hook, senders and event log note their calls. -/
def Engine.watched (engine : Engine ω) : Engine (Watched ω) where
  store := engine.store.watched
  log := engine.log.map EventLog.watched
  senders := engine.senders.map fun entry => (entry.1, entry.2.watched entry.1)
  hook := engine.hook.map fun hook customer event =>
    (hook customer event).noting fun answer => [.asked customer event answer]

/-- The sender that serves a platform in a watched engine. -/
theorem Engine.lookup?_watched (engine : Engine ω) (platform : Text) :
    OrderedMap.lookup? engine.watched.senders platform =
      (OrderedMap.lookup? engine.senders platform).map (·.watched platform) := by
  change OrderedMap.lookup? (engine.senders.map _) platform = _
  induction engine.senders with
  | nil => rfl
  | cons entry rest ih =>
    rw [List.map_cons, OrderedMap.lookup?_cons, OrderedMap.lookup?_cons]
    by_cases own : entry.1 = platform
    · subst own
      simp
    · simp [own, ih]

/-- A watched computation that does what another does, and notes calls of a kind besides. -/
def Run.Traces (noted : Call → Prop) (x : Run ω α) (y : Run (Watched ω) α) : Prop :=
  ∀ s : Session ω, ∃ added, (∀ call ∈ added, noted call) ∧ ∀ calls,
    y.outcome (s.watched calls) = ((x.outcome s).1, (x.outcome s).2.watched (calls ++ added))

namespace Run.Traces

variable {noted : Call → Prop}

theorem ofExcept (result : Except Fault α) :
    Traces (ω := ω) noted (Run.ofExcept result) (Run.ofExcept result) := fun s =>
  ⟨[], List.forall_mem_nil _, fun calls => by rw [List.append_nil]; rfl⟩

theorem pure (a : α) : Traces (ω := ω) noted (Pure.pure a) (Pure.pure a) := ofExcept (.ok a)

theorem throw (fault : Fault) :
    Traces (ω := ω) (α := α) noted (MonadExcept.throw fault) (MonadExcept.throw fault) :=
  ofExcept (.error fault)

theorem log (level : Level) (area : Area) (message : Text) :
    Traces (ω := ω) noted (Run.log level area message) (Run.log level area message) := fun s =>
  ⟨[], List.forall_mem_nil _, fun calls => by rw [List.append_nil]; rfl⟩

theorem clock : Traces (ω := ω) noted Run.clock Run.clock := fun s =>
  ⟨[], List.forall_mem_nil _, fun calls => by rw [List.append_nil]; rfl⟩

/-- A party that notes its calls does what it does anyway. -/
theorem noting (calls : Except Fault α → List Call) (x : Run ω α)
    (allowed : ∀ result, ∀ call ∈ calls result, noted call) : Traces noted x (x.noting calls) :=
  fun s => ⟨calls (x.outcome s).1, allowed _, outcome_noting calls x s⟩

theorem bind {x : Run ω α} {y : Run (Watched ω) α} {f : α → Run ω β}
    {g : α → Run (Watched ω) β} (first : Traces noted x y)
    (second : ∀ a, Traces noted (f a) (g a)) : Traces noted (x >>= f) (y >>= g) := by
  intro s
  obtain ⟨added, allowed, runs⟩ := first s
  rcases ends : x.outcome s with ⟨result, after⟩
  rw [ends] at runs
  cases result with
  | error fault =>
    refine ⟨added, allowed, fun calls => ?_⟩
    rw [outcome_bind_error (runs calls), outcome_bind_error ends]
  | ok a =>
    obtain ⟨added', allowed', runs'⟩ := second a after
    refine ⟨added ++ added', List.forall_mem_append.mpr ⟨allowed, allowed'⟩, fun calls => ?_⟩
    rw [outcome_bind_ok (runs calls), outcome_bind_ok ends, runs', List.append_assoc]

theorem attempt {x : Run ω α} {y : Run (Watched ω) α} (traces : Traces noted x y) :
    Traces noted (Run.attempt x) (Run.attempt y) := by
  intro s
  obtain ⟨added, allowed, runs⟩ := traces s
  refine ⟨added, allowed, fun calls => ?_⟩
  rw [attempt_run, attempt_run, runs]

theorem weaken {noted' : Call → Prop} {x : Run ω α} {y : Run (Watched ω) α}
    (traces : Traces noted x y) (wider : ∀ call, noted call → noted' call) :
    Traces noted' x y := by
  intro s
  obtain ⟨added, allowed, runs⟩ := traces s
  exact ⟨added, fun call member => wider call (allowed call member), runs⟩

end Run.Traces

section Parties

open Run

theorem ConfigStore.get_traces (store : ConfigStore ω) (customer : Value) :
    Traces (fun _ => False) (store.get customer) (store.watched.get customer) := by
  exact Traces.noting (fun _ => []) (store.get customer) fun _ => List.forall_mem_nil _

theorem Sender.build_traces (sender : Sender ω) (platform : Text) (event : Value)
    (fields : Fields) : Traces (fun call => call.platform? = some platform)
      (sender.build event fields) ((sender.watched platform).build event fields) := by
  refine Traces.noting (fun payload => [.built platform event fields payload])
    (sender.build event fields) fun payload call member => ?_
  rw [List.mem_singleton.mp member]
  rfl

theorem Sender.send_traces (sender : Sender ω) (platform : Text) (payload : Value) :
    Traces (fun call => call.platform? = some platform)
      (sender.send payload) ((sender.watched platform).send payload) := by
  refine Traces.noting (fun outcome => [.sent platform payload outcome]) (sender.send payload)
    fun outcome call member => ?_
  rw [List.mem_singleton.mp member]
  rfl

theorem EventLog.write_traces (log : EventLog ω) (entry : LogEntry) :
    Traces (fun call => call.entry? = some entry) (log.write entry) (log.watched.write entry) := by
  refine Traces.noting (fun done => [.wrote entry done]) (log.write entry)
    fun done call member => ?_
  rw [List.mem_singleton.mp member]
  rfl

end Parties

namespace Engine

section Tracing

open Run

variable (engine : Engine ω)

/-- A watched engine loads configurations without a call that is noted. -/
theorem loadConfig_traces (customer : Value) : Traces (fun _ => False)
    (engine.loadConfig customer) (engine.watched.loadConfig customer) := by
  have fetches : Traces (fun _ => False) (engine.fetchConfig customer)
      (engine.watched.fetchConfig customer) := by
    refine .bind (engine.store.get_traces customer) fun found => ?_
    cases found with
    | none => exact .pure none
    | some document =>
      dsimp only
      split
      · exact .pure none
      · exact .bind (.ofExcept _) fun config => .pure (some config)
  refine .bind (.attempt fetches) fun found => ?_
  cases found with
  | ok config => exact .pure config
  | error fault => exact .bind (.log _ _ _) fun _ => .pure none

/-- What a watched engine notes of its hook, if it has one, is that it was asked. -/
theorem passes_watched (customer : Value) (event : EventData) (s : Session ω) (calls : List Call) :
    (engine.watched.passes customer event).outcome (s.watched calls) =
      (((engine.passes customer event).outcome s).1,
        ((engine.passes customer event).outcome s).2.watched (calls ++ engine.hook.toList.map
          fun _ => .asked customer event ((engine.passes customer event).outcome s).1)) := by
  unfold passes watched
  cases engine.hook with
  | none =>
    rw [Option.toList_none, List.map_nil, List.append_nil]
    rfl
  | some hook =>
    exact outcome_noting (fun answer => [.asked customer event answer]) (hook customer event) s calls

/-- What a watched engine notes of a branch are calls to the sender of the platform. -/
theorem branch_traces (event : EventData) (platform : Text) (mapping : Fields) :
    Traces (fun call => call.platform? = some platform) (engine.branch event platform mapping)
      (engine.watched.branch event platform mapping) := by
  unfold branch
  rw [lookup?_watched]
  cases OrderedMap.lookup? engine.senders platform with
  | none => exact .bind (.log _ _ _) fun _ => .pure _
  | some sender =>
    have failing (payload : Fields) (fault : Fault) :
        Traces (fun call => call.platform? = some platform)
          (branchFailed platform event payload fault : Run ω PlatformResult)
          (branchFailed platform event payload fault) :=
      .bind (.log _ _ _) fun _ => .pure _
    have builds : Traces (fun call => call.platform? = some platform)
        (prepare sender event mapping) (prepare (sender.watched platform) event mapping) :=
      .bind (.ofExcept _) fun fields => sender.build_traces platform event.name fields
    refine .bind (.attempt builds) fun prepared => ?_
    cases prepared with
    | error fault => exact failing [] fault
    | ok payload =>
      refine .bind (.attempt (sender.send_traces platform (.object payload))) fun sent => ?_
      cases sent with
      | error fault => exact failing payload fault
      | ok outcome => exact .pure _

/-- What a watched engine notes of the event log is that the entry of the results was written. -/
theorem logEvent_traces (customer : Value) (event : EventData)
    (results : OrderedMap Text PlatformResult) :
    Traces (fun call => ∃ time,
        call.entry? = some ⟨customer, event.name, reached results, time⟩)
      (engine.logEvent customer event results)
      (engine.watched.logEvent customer event results) := by
  unfold logEvent watched
  cases engine.log with
  | none => exact .pure ()
  | some log =>
    refine .bind .clock fun time => ?_
    have writes := log.write_traces ⟨customer, event.name, reached results, time⟩
    refine .bind (.attempt (writes.weaken fun call wrote => ⟨time, wrote⟩)) fun written => ?_
    cases written with
    | ok done => exact .pure ()
    | error fault => exact .log _ _ _

/-- What a watched engine notes of its branches are calls to the senders of their platforms. -/
theorem branches_traces (event : EventData) (mappings : PlatformMappings) :
    Traces (fun call => ∃ platform ∈ OrderedMap.keys mappings, call.platform? = some platform)
      (engine.branches event mappings) (engine.watched.branches event mappings) := by
  induction mappings with
  | nil => exact .pure []
  | cons entry rest ih =>
    refine .bind (.weaken (engine.branch_traces event entry.1 entry.2) ?_) fun result =>
      .bind (.weaken ih ?_) fun others => .pure _
    · exact fun call own => ⟨entry.1, List.mem_cons_self, own⟩
    · exact fun call ⟨platform, member, own⟩ => ⟨platform, List.mem_cons_of_mem _ member, own⟩

theorem deliver_traces (customer : Value) (event : EventData) (config : EventConfig) :
    Traces (fun _ => True) (engine.deliver customer event config)
      (engine.watched.deliver customer event config) := by
  have anything {noted : Call → Prop} : ∀ call, noted call → True := fun _ _ => trivial
  have asks : Traces (fun _ => True) (engine.passes customer event)
      (engine.watched.passes customer event) := fun s =>
    ⟨_, fun _ _ => trivial, engine.passes_watched customer event s⟩
  refine .bind asks fun passes => ?_
  cases passes with
  | false => exact .bind (.log _ _ _) fun _ => .pure []
  | true =>
    refine .bind (.weaken (engine.branches_traces event config.mappings) anything) fun results => ?_
    refine .bind (.weaken (engine.logEvent_traces customer event results) anything) fun _ => ?_
    exact .pure _

theorem process_traces (customer : Value) (event : EventData) :
    Traces (fun _ => True) (engine.process customer event)
      (engine.watched.process customer event) := by
  refine .bind (.weaken (engine.loadConfig_traces customer) fun _ => False.elim) fun found => ?_
  cases found with
  | none => exact .throw _
  | some config =>
    dsimp only
    cases config.event? event.name with
    | none => exact .throw _
    | some found => exact engine.deliver_traces customer event found

end Tracing

/-- The calls to its parties that an engine makes for an event of a customer. -/
def calls (engine : Engine ω) (customer : Value) (event : EventData) (s : Session ω) : List Call :=
  ((engine.watched.process customer event).outcome (s.watched [])).2.party.2

/-- A watched engine answers as the engine does, and leaves the same behind but for the calls that
it notes. -/
theorem process_watched (engine : Engine ω) (customer : Value) (event : EventData) (s : Session ω)
    (before : List Call) : (engine.watched.process customer event).outcome (s.watched before) =
      (((engine.process customer event).outcome s).1,
        ((engine.process customer event).outcome s).2.watched
          (before ++ engine.calls customer event s)) := by
  obtain ⟨added, _, runs⟩ := engine.process_traces customer event s
  have noted : engine.calls customer event s = added := by
    rw [calls, runs]
    rfl
  rw [noted, runs]

theorem loadConfig_watched (engine : Engine ω) (customer : Value) (s : Session ω)
    (calls : List Call) : (engine.watched.loadConfig customer).outcome (s.watched calls) =
      (((engine.loadConfig customer).outcome s).1,
        ((engine.loadConfig customer).outcome s).2.watched calls) := by
  obtain ⟨added, none, runs⟩ := engine.loadConfig_traces customer s
  have nothing : added = [] := List.eq_nil_iff_forall_not_mem.mpr none
  rw [runs, nothing, List.append_nil]

variable {engine : Engine ω} {customer : Value} {event : EventData} {s t : Session ω}
  {found : EventConfig}

/-- What a watched engine notes until an event is dispatched is that the hook let it pass. -/
theorem dispatches_watched (dispatches : engine.Dispatches customer event s t found)
    (calls : List Call) : engine.watched.Dispatches customer event (s.watched calls)
      (t.watched (calls ++ engine.hook.toList.map fun _ => .asked customer event (.ok true)))
      found := by
  obtain ⟨config, loaded, loads, mapped, passes⟩ := dispatches
  refine ⟨config, loaded.watched calls, ?_, mapped, ?_⟩
  · rw [loadConfig_watched, loads]
  · rw [passes_watched, passes]

/-- A watched engine dispatches nothing that the engine does not dispatch. -/
theorem dispatches_of_watched {calls : List Call} {t : Session (Watched ω)}
    (dispatches : engine.watched.Dispatches customer event (s.watched calls) t found) :
    engine.Dispatches customer event s t.unwatched found := by
  obtain ⟨config, loaded, loads, mapped, passes⟩ := dispatches
  rw [loadConfig_watched] at loads
  obtain ⟨found?, rfl⟩ := Prod.mk.inj loads
  rw [passes_watched] at passes
  obtain ⟨answer, rfl⟩ := Prod.mk.inj passes
  exact ⟨config, _, Prod.ext found? rfl, mapped, Prod.ext answer rfl⟩

end Engine

end ConversionRelay
