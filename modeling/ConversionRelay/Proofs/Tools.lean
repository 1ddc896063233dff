import ConversionRelay.Proofs.Engine.ExactlyOnce
import ConversionRelay.Proofs.Store
import ConversionRelay.Tools
/-!
What the tool for events answers.

Whatever the warehouse holds or fails to do, and whatever the platforms reply, the tool answers with
an envelope. There are three of them: one says that the customer has no configuration that can be
used, one that the configuration does not name the event, and one holds the result of every platform
that the event is mapped to. Nothing that goes wrong in a branch, and nothing that goes wrong with
the event log, turns an answer of the third kind into one of the others.

Main statement: a call is answered with the envelope that fits what is stored
(`Tools.processEvent_enveloped`).
-/
namespace ConversionRelay

open OrderedMap

variable {ω : Type}

/-- In an outage every call is made in vain. -/
theorem Warehouse.call_outage {s : Session ω} {detail : Text}
    (failing : s.warehouse.outage = some detail) (dataset : Dataset) (channel : Channel)
    (request : WarehouseCall) :
    ∃ t, (Warehouse.call dataset channel request).outcome s = (.error (.outside detail), t) := by
  obtain ⟨t, opens, tables⟩ : ∃ t, (Run.ensureOpen channel
      (.warehouse (.connect dataset.project))).outcome s = (.ok (), t) ∧
      t.warehouse = s.warehouse := by
    rw [Run.ensureOpen, Run.outcome_bind_ok (Run.outcome_session s)]
    split
    · exact ⟨_, rfl, rfl⟩
    · exact ⟨_, rfl, rfl⟩
  rw [Warehouse.call, Run.outcome_bind_ok opens]
  simp only [Run.outcome_bind, Run.outcome_record, Run.outcome_session, tables, failing]
  exact ⟨_, rfl⟩

namespace ConfigStore

/-- What a store gives for a customer is a configuration. -/
def Holds (store : ConfigStore ω) (customer : Value) (s : Session ω) (config : CustomerConfig) :
    Prop :=
  ∃ document t, (store.get customer).outcome s = (.ok (some document), t) ∧
    CustomerConfig.ofText document = .ok config

/-- What a store gives for a customer cannot be used. -/
inductive Unusable (store : ConfigStore ω) (customer : Value) (s : Session ω) : Prop
  | unreadable (fault : Fault) (t : Session ω)
      (fails : (store.get customer).outcome s = (.error fault, t))
  | absent (t : Session ω) (gives : (store.get customer).outcome s = (.ok none, t))
  | empty (t : Session ω) (gives : (store.get customer).outcome s = (.ok (some []), t))
  | rejected (document : Text) (t : Session ω)
      (gives : (store.get customer).outcome s = (.ok (some document), t)) (fault : Fault)
      (refused : CustomerConfig.ofText document = .error fault)

/-- Whatever a store does, it either gives a configuration or nothing that can be used. -/
theorem holds_or_unusable (store : ConfigStore ω) (customer : Value) (s : Session ω) :
    (∃ config, store.Holds customer s config) ∨ store.Unusable customer s := by
  rcases gives : (store.get customer).outcome s with ⟨fault | document?, t⟩
  · exact .inr (.unreadable fault t gives)
  cases document? with
  | none => exact .inr (.absent t gives)
  | some document =>
    cases reads : CustomerConfig.ofText document with
    | ok config => exact .inl ⟨config, document, t, gives, reads⟩
    | error fault => exact .inr (.rejected document t gives fault reads)

/-- A store that gives a configuration gives no other one, and nothing that cannot be used. -/
theorem Holds.only {store : ConfigStore ω} {customer : Value} {s : Session ω}
    {config : CustomerConfig} (holds : store.Holds customer s config) :
    ¬store.Unusable customer s ∧ ∀ other, store.Holds customer s other → other = config := by
  obtain ⟨document, t, gives, reads⟩ := holds
  constructor
  · rintro (⟨fault, u, fails⟩ | ⟨u, gives'⟩ | ⟨u, gives'⟩ | ⟨document', u, gives', fault, refused⟩)
    · rw [gives] at fails
      cases fails
    · rw [gives] at gives'
      cases gives'
    · rw [gives] at gives'
      cases gives'
      cases reads
    · rw [gives] at gives'
      cases gives'
      rw [reads] at refused
      cases refused
  · rintro other ⟨document', u, gives', reads'⟩
    rw [gives] at gives'
    cases gives'
    rw [reads] at reads'
    cases reads'
    rfl

/-- What the store in the warehouse gives is the row of the customer, unless the query fails. -/
theorem warehouse_get (dataset : Dataset) (customer : Text) (s : Session ω) : ∃ t,
    ((warehouse dataset).get (.string customer)).outcome s =
      (match s.warehouse.outage with
        | some detail => .error (.outside detail)
        | none => .ok (lookup? s.warehouse.configs (.string customer)), t) := by
  cases failing : s.warehouse.outage with
  | none =>
    obtain ⟨t, gives, _⟩ := (warehouse_lastWrite dataset).get s failing customer
    exact ⟨t, gives⟩
  | some detail =>
    obtain ⟨t, fails⟩ := Warehouse.call_outage failing dataset .store
      (.query (Warehouse.readConfig dataset.configTable)
        (some [⟨"customer_id", "STRING", .string customer⟩]))
    exact ⟨t, Run.outcome_bind_error fails⟩

/-- The store in the warehouse has nothing that can be used if the query fails, and otherwise if
the row of the customer is not there, or is not read as a configuration. -/
theorem warehouse_unusable (dataset : Dataset) (customer : Text) (s : Session ω) :
    (warehouse dataset).Unusable (.string customer) s ↔ s.warehouse.outage.isSome ∨
      ∀ document, lookup? s.warehouse.configs (.string customer) = some document →
        ∃ fault, CustomerConfig.ofText document = .error fault := by
  obtain ⟨t, gives⟩ := warehouse_get dataset customer s
  cases failing : s.warehouse.outage with
  | some detail =>
    rw [failing] at gives
    exact iff_of_true (.unreadable _ t gives) (.inl rfl)
  | none =>
    rw [failing] at gives
    dsimp only at gives
    simp only [Option.isSome_none, Bool.false_eq_true, false_or]
    constructor
    · intro unusable document row
      rw [row] at gives
      cases reads : CustomerConfig.ofText document with
      | error fault => exact ⟨fault, rfl⟩
      | ok config => exact absurd unusable (Holds.only ⟨document, t, gives, reads⟩).1
    · intro unreadable
      cases row : lookup? s.warehouse.configs (.string customer) with
      | none =>
        rw [row] at gives
        exact .absent t gives
      | some document =>
        rw [row] at gives
        obtain ⟨fault, refused⟩ := unreadable document row
        exact .rejected document t gives fault refused

end ConfigStore

namespace Engine

variable {engine : Engine ω} {customer : Value} {s : Session ω}

theorem loadConfig_of_holds {config : CustomerConfig}
    (holds : engine.store.Holds customer s config) :
    ∃ t, (engine.loadConfig customer).outcome s = (.ok (some config), t) := by
  obtain ⟨document, t, gives, reads⟩ := holds
  exact ⟨t, loadConfig_run gives reads⟩

/-- Unless a configuration is fetched, none is loaded. -/
theorem loadConfig_of_fetchConfig {result : Except Fault (Option CustomerConfig)} {t : Session ω}
    (fetches : (engine.fetchConfig customer).outcome s = (result, t))
    (unusable : ∀ config, result ≠ .ok (some config)) :
    ∃ t, (engine.loadConfig customer).outcome s = (.ok none, t) := by
  rw [loadConfig, Run.outcome_bind_attempt fetches]
  cases result with
  | error fault => exact ⟨_, rfl⟩
  | ok found =>
    cases found with
    | none => exact ⟨_, rfl⟩
    | some config => exact absurd rfl (unusable config)

/-- What cannot be used counts as absent, whatever is wrong with it. -/
theorem loadConfig_of_unusable (unusable : engine.store.Unusable customer s) :
    ∃ t, (engine.loadConfig customer).outcome s = (.ok none, t) := by
  cases unusable with
  | unreadable fault t fails =>
    have fetches : (engine.fetchConfig customer).outcome s = (.error fault, t) := by
      rw [fetchConfig, Run.outcome_bind_error fails]
    exact loadConfig_of_fetchConfig fetches (by simp)
  | absent t gives =>
    have fetches : (engine.fetchConfig customer).outcome s = (.ok none, t) := by
      rw [fetchConfig, Run.outcome_bind_ok gives]
      rfl
    exact loadConfig_of_fetchConfig fetches (by simp)
  | empty t gives =>
    have fetches : (engine.fetchConfig customer).outcome s = (.ok none, t) := by
      rw [fetchConfig, Run.outcome_bind_ok gives]
      rfl
    exact loadConfig_of_fetchConfig fetches (by simp)
  | rejected document t gives fault refused =>
    by_cases empty : document.isEmpty = true
    · have fetches : (engine.fetchConfig customer).outcome s = (.ok none, t) := by
        rw [fetchConfig, Run.outcome_bind_ok gives]
        simp only [empty, if_true]
        rfl
      exact loadConfig_of_fetchConfig fetches (by simp)
    · have fetches : (engine.fetchConfig customer).outcome s = (.error fault, t) := by
        rw [fetchConfig, Run.outcome_bind_ok gives]
        simp only [empty, Bool.false_eq_true, if_false, Run.outcome_ofExcept_bind, refused]
      exact loadConfig_of_fetchConfig fetches (by simp)

end Engine

/-- An event that is named by a text is found under exactly this name. -/
theorem CustomerConfig.event?_eq_none {config : CustomerConfig} {name : Text} :
    config.event? (.string name) = none ↔ ∀ event ∈ config.events, event.name ≠ .string name := by
  have equal (v : Value) : v.equal (.string name) = true ↔ v = .string name := by
    cases v <;> simp [Value.equal, Value.same, Value.isNaN, Value.sameQuantity,
      Quantity.ofValue?]
  simp only [event?, List.find?_eq_none, equal, ne_eq]

/-- What is there and not empty stays so. -/
theorem Settings.present?_of_present? {given? : Option Text} {text : Text}
    (given : Settings.present? given? = some text) : Settings.present? (some text) = some text := by
  cases text with
  | cons c rest => rfl
  | nil =>
    cases given? with
    | none => cases given
    | some other =>
      cases other with
      | nil => cases given
      | cons c rest => cases given

namespace Tools

/-- The envelope of a refusal. -/
def refusal (message : Text) : Value :=
  .object [("success", .bool false), ("error", .string message)]

/-- The envelope of results. -/
def accepted (results : OrderedMap Text PlatformResult) : Value :=
  .object [("success", .bool true),
    ("results", .object (results.map fun entry => (entry.1, .object entry.2.record)))]

/-- No configuration of the customer can be used. -/
def unknownCustomer (customer : Text) : Value :=
  refusal ("No config found for customer: " ++ customer)

/-- The configuration does not name the event. -/
def unknownEvent (name : Text) : Value := refusal ("No config found for event: " ++ name)

theorem unknownCustomer_ne_unknownEvent (customer name : Text) :
    unknownCustomer customer ≠ unknownEvent name := by
  intro same
  simp only [unknownCustomer, unknownEvent, refusal, Value.object.injEq, List.cons.injEq,
    Prod.mk.injEq, Value.string.injEq, true_and, and_true] at same
  have starts := congrArg (List.take 21) same
  rw [List.take_append_of_le_length (by decide), List.take_append_of_le_length (by decide)] at starts
  revert starts
  decide

theorem accepted_ne_refusal (results : OrderedMap Text PlatformResult) (message : Text) :
    accepted results ≠ refusal message := by
  intro same
  simp [accepted, refusal] at same

/-- An event is processed by an engine, and what that came to is put into an envelope. -/
def serve (engine : Engine ω) (customer : Value) (event : EventData) : Run ω Value := do
  Run.ofExcept (envelope (← Run.attempt (engine.process customer event)))

section Serving

variable {engine : Engine ω} {customer name : Text} {layer : Value} {s : Session ω}

theorem serve_outcome (engine : Engine ω) (customer : Value) (event : EventData) (s : Session ω) :
    ((serve engine customer event).outcome s).1 =
      envelope ((engine.process customer event).outcome s).1 := by
  rw [serve, Run.outcome_bind_ok (Run.attempt_run _ s), Run.outcome_ofExcept]

theorem serve_of_unusable (unusable : engine.store.Unusable (.string customer) s) :
    ((serve engine (.string customer) ⟨.string name, layer⟩).outcome s).1 =
      .ok (unknownCustomer customer) := by
  obtain ⟨t, loads⟩ := Engine.loadConfig_of_unusable unusable
  rw [serve_outcome, Engine.process_of_no_config engine _ _ s t loads]
  rfl

theorem serve_of_unnamed {config : CustomerConfig}
    (holds : engine.store.Holds (.string customer) s config)
    (unnamed : config.event? (.string name) = none) :
    ((serve engine (.string customer) ⟨.string name, layer⟩).outcome s).1 =
      .ok (unknownEvent name) := by
  obtain ⟨t, loads⟩ := Engine.loadConfig_of_holds holds
  rw [serve_outcome, Engine.process_of_no_event loads unnamed]
  rfl

/-- Without a hook, an event that is found is answered with the results of its branches. -/
theorem serve_of_found (hookless : engine.hook = none) {config : CustomerConfig}
    {found : EventConfig} (holds : engine.store.Holds (.string customer) s config)
    (named : config.event? (.string name) = some found) :
    ∃ results calls,
      ((serve engine (.string customer) ⟨.string name, layer⟩).outcome s).1 =
        .ok (accepted results) ∧
      engine.Branches ⟨.string name, layer⟩ found.mappings results calls := by
  obtain ⟨t, loads⟩ := Engine.loadConfig_of_holds holds
  have passes : (engine.passes (.string customer) ⟨.string name, layer⟩).outcome t =
      (.ok true, t) := by
    rw [Engine.passes, hookless]
    rfl
  obtain ⟨results, calls, _, _, answer, branches, _, _⟩ :=
    Engine.calls_of_dispatches ⟨config, t, loads, named, passes⟩ trivial
      (engine.branches_gives ⟨.string name, layer⟩ found.mappings)
  refine ⟨results, calls, ?_, branches⟩
  rw [serve_outcome, answer, envelope, accepted, List.map_map]
  rfl

end Serving

/-- The envelope that fits what a store holds of a customer when an event is processed. -/
structure Enveloped (engine : Engine ω) (customer name : Text) (layer : Value) (s : Session ω)
    (answer : Value) : Prop where
  unknownCustomer : answer = unknownCustomer customer ↔
    engine.store.Unusable (.string customer) s
  unknownEvent : answer = unknownEvent name ↔
    ∃ config, engine.store.Holds (.string customer) s config ∧
      ∀ event ∈ config.events, event.name ≠ .string name
  /-- Every other answer holds the results of the branches, each of which came to one of the ends
  that a branch may come to, under the platforms that the event is mapped to. -/
  otherwise : ∀ config found, engine.store.Holds (.string customer) s config →
    config.event? (.string name) = some found →
    ∃ results calls, answer = accepted results ∧ keys results = keys found.mappings ∧
      engine.Branches ⟨.string name, layer⟩ found.mappings results calls

/-- An engine without a hook is served with the envelope that fits, whatever its store, its senders
and its event log do. -/
theorem serve_enveloped {engine : Engine ω} (hookless : engine.hook = none)
    (customer name : Text) (layer : Value) (s : Session ω) : ∃ answer,
      ((serve engine (.string customer) ⟨.string name, layer⟩).outcome s).1 = .ok answer ∧
        Enveloped engine customer name layer s answer := by
  rcases engine.store.holds_or_unusable (.string customer) s with ⟨config, holds⟩ | unusable
  · cases named : config.event? (.string name) with
    | none =>
      refine ⟨_, serve_of_unnamed holds named, ⟨?_, ?_, ?_⟩⟩
      · refine iff_of_false ?_ holds.only.1
        exact (unknownCustomer_ne_unknownEvent customer name).symm
      · exact iff_of_true rfl ⟨config, holds, CustomerConfig.event?_eq_none.mp named⟩
      · intro other found holds' named'
        rw [holds.only.2 other holds', named] at named'
        cases named'
    | some found =>
      obtain ⟨results, calls, answer, branches⟩ := serve_of_found hookless holds named
      refine ⟨_, answer, ⟨?_, ?_, ?_⟩⟩
      · exact iff_of_false (accepted_ne_refusal results _) holds.only.1
      · refine iff_of_false (accepted_ne_refusal results _) ?_
        rintro ⟨other, holds', unnamed⟩
        rw [holds.only.2 other holds', ← CustomerConfig.event?_eq_none, named] at unnamed
        cases unnamed
      · intro other found' holds' named'
        rw [holds.only.2 other holds', named] at named'
        cases named'
        exact ⟨results, calls, rfl, branches.keys_eq, branches⟩
  · have none (config : CustomerConfig) : ¬engine.store.Holds (.string customer) s config :=
      fun holds => holds.only.1 unusable
    refine ⟨_, serve_of_unusable unusable, ⟨iff_of_true rfl unusable, ?_, ?_⟩⟩
    · refine iff_of_false (unknownCustomer_ne_unknownEvent customer name) ?_
      rintro ⟨config, holds, _⟩
      exact none config holds
    · intro config found holds
      exact absurd holds (none config)

section Environments

/-- An environment names a project, under either of two variables. -/
def NamesProject (env : Settings.Environment) : Prop :=
  Settings.present? (lookup? env "GCP_PROJECT_ID") ≠ none ∨
    Settings.present? (lookup? env "GROWTNAV_PROJECT_ID") ≠ none

/-- What an environment says about the time that a request may take, if anything, is a number. -/
def TimeoutReads (env : Settings.Environment) : Prop :=
  (Text.readNumber ((lookup? env "GROWTNAV_SEND_TIMEOUT").getD "10")).isSome

instance (env : Settings.Environment) : Decidable (NamesProject env) :=
  inferInstanceAs (Decidable (_ ∨ _))

instance (env : Settings.Environment) : Decidable (TimeoutReads env) :=
  inferInstanceAs (Decidable (_ = true))

/-- An environment that names a project and whose timeout can be read has settings. -/
theorem settingsIn_of_namesProject {env : Settings.Environment} (project : NamesProject env)
    (timeout : TimeoutReads env) : ∃ settings dataset, settingsIn env = .ok (settings, dataset) := by
  obtain ⟨seconds, reads⟩ := Option.isSome_iff_exists.mp timeout
  have number : Settings.numberOf ((lookup? env "GROWTNAV_SEND_TIMEOUT").getD "10") =
      .ok seconds := by
    rw [Settings.numberOf, reads]
  cases first : Settings.present? (lookup? env "GCP_PROJECT_ID") with
  | some given =>
    have stays := Settings.present?_of_present? first
    simp only [settingsIn, Settings.ofEnvironment, number, first]
    simp [stays, Except.map, bind, Except.bind, pure, Except.pure]
  | none =>
    have named := project.resolve_left (not_not_intro first)
    obtain ⟨given, second⟩ := Option.ne_none_iff_exists'.mp named
    simp only [settingsIn, Settings.ofEnvironment, number, first]
    simp [second, Except.map, bind, Except.bind, pure, Except.pure]

end Environments

theorem processEvent_outcome {env : Settings.Environment} {settings : Settings} {dataset : Dataset}
    (configured : settingsIn env = .ok (settings, dataset)) (customer : Value) (event : EventData)
    (s : Session ω) : (processEvent env customer event).outcome s =
      (serve (engineFor settings dataset) customer event).outcome { s with opened := [] } := by
  rw [processEvent, configured]
  rfl

/-- The tool for events always answers. -/
theorem processEvent_enveloped (env : Settings.Environment) (project : NamesProject env)
    (timeout : TimeoutReads env) (customer name : Text) (layer : Value) (s : Session ω) :
    ∃ settings dataset, settingsIn env = .ok (settings, dataset) ∧
      (∃ answer, ((processEvent env (.string customer) ⟨.string name, layer⟩).outcome s).1 =
          .ok answer ∧
        Enveloped (engineFor settings dataset) customer name layer { s with opened := [] } answer) ∧
      ∀ (store : ConfigStore ω) (log : EventLog ω) (t : Session ω),
        let engine : Engine ω := { engineFor settings dataset with store, log := some log }
        ∃ answer, ((serve engine (.string customer) ⟨.string name, layer⟩).outcome t).1 =
          .ok answer ∧ Enveloped engine customer name layer t answer := by
  obtain ⟨settings, dataset, configured⟩ := settingsIn_of_namesProject project timeout
  refine ⟨settings, dataset, configured, ?_, fun store log t => ?_⟩
  · rw [processEvent_outcome configured]
    exact serve_enveloped rfl customer name layer _
  · exact serve_enveloped rfl customer name layer t

/-- A row that does not hold a document is answered like a row that is not there. -/
theorem processEvent_enveloped_broken_row :
    let env : Settings.Environment := [("GROWTNAV_PROJECT_ID", "growth")]
    let event : EventData := ⟨.string "purchase", .object [("total", .int 5)]⟩
    let s : Session Unit := { Session.initial () with
      warehouse := ⟨[(.string "acme", "[1,")], none, .array []⟩ }
    NamesProject env ∧ TimeoutReads env ∧
      ((processEvent env (.string "acme") event).outcome s).1 = .ok (unknownCustomer "acme") := by
  intro env event s
  have project : NamesProject env := by decide
  have timeout : TimeoutReads env := by decide +kernel
  refine ⟨project, timeout, ?_⟩
  obtain ⟨settings, dataset, _, ⟨answer, answers, enveloped⟩, _⟩ :=
    processEvent_enveloped env project timeout "acme" "purchase" (.object [("total", .int 5)]) s
  have unusable : (ConfigStore.warehouse dataset).Unusable (.string "acme")
      { s with opened := [] } := by
    refine (ConfigStore.warehouse_unusable dataset "acme" _).mpr (.inr ?_)
    intro document row
    cases row
    exact ⟨_, rfl⟩
  rw [answers, enveloped.unknownCustomer.mpr unusable]

end Tools

end ConversionRelay
