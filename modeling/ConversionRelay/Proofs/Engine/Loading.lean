import ConversionRelay.Engine
import ConversionRelay.Proofs.Run
/-!
What an engine does around the branches of an event.

An event is dispatched if its customer has a configuration that mentions it and the hook lets it
pass. Until then the senders and the event log do not matter, so an event that is not dispatched
fares alike with any of them.

Main statements: an event that is dispatched is answered by the records of its branches
(`Engine.process_of_dispatches`), engines with the same store and the same hook dispatch the same
events and treat all others alike (`Engine.dispatches_or_same`), and what an engine answers does not
depend on its event log (`Engine.process_log`).
-/
namespace ConversionRelay

variable {ω : Type}

/-- A document that is read as a configuration is not empty. -/
theorem CustomerConfig.ne_nil_of_ofText {document : Text} {config : CustomerConfig}
    (reads : ofText document = .ok config) : document.isEmpty = false := by
  cases document with
  | nil => cases reads
  | cons c rest => rfl

/-- A configuration that the store gives and that can be read is loaded. -/
theorem Engine.loadConfig_run {engine : Engine ω} {customer : Value} {document : Text}
    {config : CustomerConfig} {s t : Session ω}
    (gives : (engine.store.get customer).outcome s = (.ok (some document), t))
    (reads : CustomerConfig.ofText document = .ok config) :
    (engine.loadConfig customer).outcome s = (.ok (some config), t) := by
  have fetches : (engine.fetchConfig customer).outcome s = (.ok (some config), t) := by
    rw [fetchConfig, Run.outcome_bind_ok gives]
    simp only [CustomerConfig.ne_nil_of_ofText reads, Bool.false_eq_true, if_false, reads]
    rfl
  rw [loadConfig, Run.outcome_bind_attempt fetches]
  rfl

/-- A configuration that the store gave was read from its text. -/
theorem Engine.ofText_of_fetchConfig {engine : Engine ω} {customer : Value}
    {config : CustomerConfig} {s t : Session ω}
    (fetches : (engine.fetchConfig customer).outcome s = (.ok (some config), t)) :
    ∃ document, CustomerConfig.ofText document = .ok config := by
  rcases gives : (engine.store.get customer).outcome s with ⟨fault | found, u⟩
  · rw [fetchConfig, Run.outcome_bind_error gives] at fetches
    cases fetches
  rw [fetchConfig, Run.outcome_bind_ok gives] at fetches
  cases found with
  | none => cases fetches
  | some document =>
    dsimp only at fetches
    split at fetches
    · cases fetches
    · rw [Run.outcome_ofExcept_bind] at fetches
      cases reads : CustomerConfig.ofText document with
      | error fault =>
        rw [reads] at fetches
        cases fetches
      | ok read =>
        rw [reads] at fetches
        cases fetches
        exact ⟨document, reads⟩

/-- Loading never fails: what cannot be read counts as absent. -/
theorem Engine.loadConfig_ends (engine : Engine ω) (customer : Value) (s : Session ω) :
    ∃ found t, (engine.loadConfig customer).outcome s = (.ok found, t) ∧
      ∀ config, found = some config → ∃ document, CustomerConfig.ofText document = .ok config := by
  rw [loadConfig, Run.outcome_bind_ok (Run.attempt_run _ s)]
  rcases fetches : (engine.fetchConfig customer).outcome s with ⟨fault | found, t⟩
  · exact ⟨none, _, rfl, nofun⟩
  · refine ⟨found, t, rfl, fun config same => ?_⟩
    subst same
    exact ofText_of_fetchConfig fetches

/-- What is prepared of a mapping is built from the fields that were read for it. -/
theorem Engine.prepare_run {sender : Sender ω} {event : EventData} {mapping fields : Fields}
    (reads : DataLayer.readFields event.layer mapping = .ok fields) (s : Session ω) :
    (prepare sender event mapping).outcome s = (sender.build event.name fields).outcome s := by
  rw [prepare, reads]
  rfl

/-- Writing to the event log fails nobody. What it leaves behind is what the event log does, and
perhaps a line of the log. -/
theorem Engine.logEvent_run (engine : Engine ω) (customer : Value) (event : EventData)
    (results : OrderedMap Text PlatformResult) (s : Session ω) :
    ∃ t, (engine.logEvent customer event results).outcome s = (.ok (), t) ∧
      (engine.log = none ∧ t = s ∨ ∃ log entry journal, engine.log = some log ∧
        t = { ((log.write entry).outcome s).2 with journal }) := by
  unfold logEvent
  cases engine.log with
  | none => exact ⟨s, rfl, .inl ⟨rfl, rfl⟩⟩
  | some log =>
    let entry : LogEntry := ⟨customer, event.name, reached results, s.now⟩
    dsimp only
    rw [Run.outcome_bind_ok (Run.outcome_clock s), Run.outcome_bind_ok (Run.attempt_run _ s)]
    rcases writes : (log.write entry).outcome s with ⟨fault | done, t⟩
    · exact ⟨_, rfl, .inr ⟨log, entry, _, rfl, by rw [writes]⟩⟩
    · exact ⟨t, rfl, .inr ⟨log, entry, t.journal, rfl, by rw [writes]⟩⟩

/-- An event of a loaded configuration is delivered. -/
theorem Engine.process_of_event {engine : Engine ω} {customer : Value} {event : EventData}
    {config : CustomerConfig} {found : EventConfig} {s t : Session ω}
    (loads : (engine.loadConfig customer).outcome s = (.ok (some config), t))
    (mapped : config.event? event.name = some found) :
    (engine.process customer event).outcome s =
      (engine.deliver customer event found).outcome t := by
  rw [process, Run.outcome_bind_ok loads]
  simp only [mapped]

/-- An event that a loaded configuration does not mention is refused. -/
theorem Engine.process_of_no_event {engine : Engine ω} {customer : Value} {event : EventData}
    {config : CustomerConfig} {s t : Session ω}
    (loads : (engine.loadConfig customer).outcome s = (.ok (some config), t))
    (unmapped : config.event? event.name = none) :
    (engine.process customer event).outcome s =
      (.error (.tracking (.eventNotConfigured customer event.name)), t) := by
  rw [process, Run.outcome_bind_ok loads]
  simp only [unmapped]
  rfl

namespace Engine

/-- An engine dispatches an event of a customer: starting in the first session, it comes to the
branches of the configuration that it found in the second. -/
def Dispatches (engine : Engine ω) (customer : Value) (event : EventData) (s t : Session ω)
    (found : EventConfig) : Prop :=
  ∃ config loaded, (engine.loadConfig customer).outcome s = (.ok (some config), loaded) ∧
    config.event? event.name = some found ∧
    (engine.passes customer event).outcome loaded = (.ok true, t)

/-- The branches of an event, the entry of the event log, and the records that are answered. -/
def dispatch (engine : Engine ω) (customer : Value) (event : EventData)
    (mappings : PlatformMappings) : Run ω (OrderedMap Text Fields) := do
  let results ← engine.branches event mappings
  engine.logEvent customer event results
  return results.map fun entry => (entry.1, entry.2.record)

variable {first second : Engine ω} {customer : Value} {event : EventData} {s t : Session ω}
  {found : EventConfig}

theorem process_of_dispatches (dispatches : first.Dispatches customer event s t found) :
    (first.process customer event).outcome s =
      (first.dispatch customer event found.mappings).outcome t := by
  obtain ⟨config, loaded, loads, mapped, passes⟩ := dispatches
  rw [process_of_event loads mapped, deliver, Run.outcome_bind_ok passes]
  rfl

theorem dispatches_congr (store : first.store = second.store) (hook : first.hook = second.hook)
    (dispatches : first.Dispatches customer event s t found) :
    second.Dispatches customer event s t found := by
  obtain ⟨config, loaded, loads, mapped, passes⟩ := dispatches
  refine ⟨config, loaded, ?_, mapped, ?_⟩
  · rw [← loads, loadConfig, fetchConfig, loadConfig, fetchConfig, store]
  · rw [← passes, Engine.passes, Engine.passes, hook]

theorem branches_congr (senders : first.senders = second.senders) (event : EventData)
    (mappings : PlatformMappings) : first.branches event mappings = second.branches event mappings := by
  induction mappings with
  | nil => rfl
  | cons entry rest ih => rw [branches, branches, branch, branch, senders, ih]

/-- Engines with the same store and the same hook dispatch the same events and treat all others
alike. -/
theorem dispatches_or_same (store : first.store = second.store) (hook : first.hook = second.hook)
    (customer : Value) (event : EventData) (s : Session ω) :
    (∃ t found, first.Dispatches customer event s t found) ∨
      (first.process customer event).outcome s = (second.process customer event).outcome s := by
  have loading : first.loadConfig customer = second.loadConfig customer := by
    rw [loadConfig, fetchConfig, loadConfig, fetchConfig, store]
  have asking : first.passes customer event = second.passes customer event := by
    rw [passes, passes, hook]
  rcases loads : (first.loadConfig customer).outcome s with ⟨fault | found?, loaded⟩
  · refine .inr ?_
    rw [process, process, Run.outcome_bind_error loads, Run.outcome_bind_error (loading ▸ loads)]
  have loads' := loading ▸ loads
  cases found? with
  | none =>
    refine .inr ?_
    rw [process_of_no_config first customer event s loaded loads,
      process_of_no_config second customer event s loaded loads']
  | some config =>
    cases mapped : config.event? event.name with
    | none =>
      refine .inr ?_
      rw [process_of_no_event loads mapped, process_of_no_event loads' mapped]
    | some found =>
      rw [process_of_event loads mapped, process_of_event loads' mapped, deliver, deliver]
      rcases asks : (first.passes customer event).outcome loaded with ⟨fault | passes, t⟩
      · refine .inr ?_
        rw [Run.outcome_bind_error asks, Run.outcome_bind_error (asking ▸ asks)]
      · cases passes with
        | true => exact .inl ⟨t, found, config, loaded, loads, mapped, asks⟩
        | false =>
          refine .inr ?_
          rw [Run.outcome_bind_ok asks, Run.outcome_bind_ok (asking ▸ asks)]
          rfl

/-- What an engine answers does not depend on its event log. -/
theorem process_log (engine : Engine ω) (log : Option (EventLog ω)) (customer : Value)
    (event : EventData) (s : Session ω) :
    ((process { engine with log } customer event).outcome s).1 =
      ((engine.process customer event).outcome s).1 := by
  let other : Engine ω := { engine with log }
  have store : engine.store = other.store := rfl
  have hook : engine.hook = other.hook := rfl
  have senders : other.senders = engine.senders := rfl
  rcases dispatches_or_same store hook customer event s with ⟨t, found, dispatches⟩ | same
  · have dispatches' := dispatches_congr store hook dispatches
    rw [process_of_dispatches dispatches, process_of_dispatches dispatches', dispatch, dispatch,
      branches_congr senders]
    rcases ends : (engine.branches event found.mappings).outcome t with ⟨fault | results, u⟩
    · rw [Run.outcome_bind_error ends, Run.outcome_bind_error ends]
    · obtain ⟨v, logs, _⟩ := engine.logEvent_run customer event results u
      obtain ⟨w, logs', _⟩ := other.logEvent_run customer event results u
      rw [Run.outcome_bind_ok ends, Run.outcome_bind_ok ends, Run.outcome_bind_ok logs,
        Run.outcome_bind_ok logs']
      rfl
  · rw [same]

end Engine

end ConversionRelay
