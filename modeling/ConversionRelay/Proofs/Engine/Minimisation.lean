import ConversionRelay.Proofs.Config.RoundTrip
import ConversionRelay.Proofs.Engine.ExactlyOnce
/-!
What an engine can learn of a data layer.

Two data layers read alike for an event if every path that the event names leads to the same value
in both, or fails alike in both. What stands anywhere else in them is none of the engine's business:
it is neither sent nor logged nor answered, not even by way of a failure.

Main statement: without a hook, an engine does the same for data layers that read alike
(`Engine.process_of_readsAlike`).
-/
namespace ConversionRelay

/-- Every path of a mapping reads alike in two data layers. -/
def DataLayer.Alike (layer layer' : Value) (mapping : Fields) : Prop :=
  ∀ name path, (name, path) ∈ mapping → read layer path = read layer' path

/-- Every path that an event names, for whichever platform, reads alike in two data layers. -/
def EventConfig.ReadsAlike (found : EventConfig) (layer layer' : Value) : Prop :=
  ∀ platform mapping, (platform, mapping) ∈ found.mappings → DataLayer.Alike layer layer' mapping

theorem DataLayer.readFields_of_alike {layer layer' : Value} {mapping : Fields}
    (alike : Alike layer layer' mapping) : readFields layer mapping = readFields layer' mapping := by
  induction mapping with
  | nil => rfl
  | cons field rest ih =>
    obtain ⟨name, path⟩ := field
    have here : read layer path = read layer' path := alike name path List.mem_cons_self
    have later : readFields layer rest = readFields layer' rest := by
      apply ih
      intro other path member
      exact alike other path (List.mem_cons_of_mem _ member)
    rw [readFields, readFields, here, later]

namespace Engine

open Json

variable {ω : Type} {layer layer' : Value}

/-- A payload is prepared from nothing but what the paths of its mapping lead to. -/
theorem prepare_of_alike {mapping : Fields} (alike : DataLayer.Alike layer layer' mapping)
    (sender : Sender ω) (name : Value) :
    prepare sender ⟨name, layer⟩ mapping = prepare sender ⟨name, layer'⟩ mapping := by
  simp only [prepare, DataLayer.readFields_of_alike alike]

theorem branch_of_alike {mapping : Fields} (alike : DataLayer.Alike layer layer' mapping)
    (engine : Engine ω) (name : Value) (platform : Text) :
    engine.branch ⟨name, layer⟩ platform mapping =
      engine.branch ⟨name, layer'⟩ platform mapping := by
  unfold branch
  cases OrderedMap.lookup? engine.senders platform with
  | none => rfl
  | some sender => simp only [prepare_of_alike alike, branchFailed]

/-- Neither the branches that come to an end nor the failures of the others tell data layers that
read alike apart. -/
theorem branches_of_alike {mappings : PlatformMappings}
    (alike : ∀ platform mapping, (platform, mapping) ∈ mappings →
      DataLayer.Alike layer layer' mapping) (engine : Engine ω) (name : Value) :
    engine.branches ⟨name, layer⟩ mappings = engine.branches ⟨name, layer'⟩ mappings := by
  induction mappings with
  | nil => rfl
  | cons entry rest ih =>
    obtain ⟨platform, mapping⟩ := entry
    have here := branch_of_alike (alike platform mapping List.mem_cons_self) engine name platform
    have later : engine.branches ⟨name, layer⟩ rest = engine.branches ⟨name, layer'⟩ rest := by
      apply ih
      intro other mapping member
      exact alike other mapping (List.mem_cons_of_mem _ member)
    rw [branches, branches, here, later]

/-- Without a hook, nobody but the branches is shown the data layer. -/
theorem deliver_of_readsAlike {engine : Engine ω} (hookless : engine.hook = none)
    {found : EventConfig} (alike : found.ReadsAlike layer layer') (customer name : Value) :
    engine.deliver customer ⟨name, layer⟩ found = engine.deliver customer ⟨name, layer'⟩ found := by
  simp only [deliver, passes, hookless, branches_of_alike alike, logEvent]

/-- An engine without a hook that is called with data layers which read alike answers and leaves
behind the same. -/
theorem outcome_of_readsAlike {engine : Engine ω} (hookless : engine.hook = none)
    {customer name : Value} {s : Session ω}
    (alike : ∀ found, engine.Finds customer ⟨name, layer⟩ s found →
      found.ReadsAlike layer layer') :
    (engine.process customer ⟨name, layer⟩).outcome s =
      (engine.process customer ⟨name, layer'⟩).outcome s := by
  obtain ⟨found?, t, loads, _⟩ := engine.loadConfig_ends customer s
  cases found? with
  | none =>
    rw [process_of_no_config engine customer _ s t loads,
      process_of_no_config engine customer _ s t loads]
  | some config =>
    cases mapped : config.event? name with
    | none => rw [process_of_no_event loads mapped, process_of_no_event loads mapped]
    | some found =>
      have same := alike found ⟨config, t, loads, mapped⟩
      rw [process_of_event loads mapped, process_of_event loads mapped,
        deliver_of_readsAlike hookless same]

/-- What a watched engine finds is what the engine finds. -/
theorem finds_of_watched {engine : Engine ω} {customer : Value} {event : EventData}
    {s : Session ω} {calls : List Call} {found : EventConfig}
    (finds : engine.watched.Finds customer event (s.watched calls) found) :
    engine.Finds customer event s found := by
  obtain ⟨config, t, loads, mapped⟩ := finds
  rw [loadConfig_watched] at loads
  obtain ⟨found?, _⟩ := Prod.mk.inj loads
  exact ⟨config, _, Prod.ext found? rfl, mapped⟩

/-- Whatever the store, the senders and the event log are, an engine without a hook does the same
for two data layers in which every path of the event that it finds reads alike: it answers the same
records or fails with the same fault, shows its senders and its event log the same fields, payloads
and entries, and leaves the same session behind, with the same requests and the same lines of the
log in its journal. -/
theorem process_of_readsAlike (engine : Engine ω) (hookless : engine.hook = none)
    (customer name layer layer' : Value) (s : Session ω)
    (alike : ∀ found, engine.Finds customer ⟨name, layer⟩ s found →
      found.ReadsAlike layer layer') :
    (engine.process customer ⟨name, layer⟩).outcome s =
        (engine.process customer ⟨name, layer'⟩).outcome s ∧
      engine.calls customer ⟨name, layer⟩ s = engine.calls customer ⟨name, layer'⟩ s := by
  constructor
  · exact outcome_of_readsAlike hookless alike
  · have hookless' : engine.watched.hook = none := by rw [watched, hookless, Option.map_none]
    have same : (engine.watched.process customer ⟨name, layer⟩).outcome (s.watched []) =
        (engine.watched.process customer ⟨name, layer'⟩).outcome (s.watched []) := by
      apply outcome_of_readsAlike hookless'
      intro found finds
      exact alike found (finds_of_watched finds)
    rw [calls, calls, same]

/-- A price and a path that cannot be followed read alike, whatever else a page has pushed: neither
the branch that delivers nor the branch that fails says anything of it. -/
theorem process_of_readsAlike_secret :
    let config : CustomerConfig :=
      { customerId := .string "acme"
        containerId := .string "acme"
        events := [⟨.string "purchase",
          [("ga4", [("value", .string "total")]), ("facebook", [("value", .int 7)])]⟩]
        version := .string "1.0.0" }
    let engine : Engine Unit :=
      { store := ⟨fun _ => pure (some config.stored), fun _ => pure ()⟩
        log := some ⟨fun _ => pure ()⟩
        senders := [("ga4", LogSender.sender .ga4), ("facebook", LogSender.sender .facebook)]
        hook := none }
    let layer : Value := .object [("total", .int 5), ("secret", .string "open sesame")]
    let layer' : Value := .object [("total", .int 5)]
    (∃ found, engine.Finds (.string "acme") ⟨.string "purchase", layer⟩ (.initial ()) found) ∧
      (engine.process (.string "acme") ⟨.string "purchase", layer⟩).outcome (.initial ()) =
        (engine.process (.string "acme") ⟨.string "purchase", layer'⟩).outcome (.initial ()) := by
  intro config engine layer layer'
  have total : Document Limits.standard 982 (.object [("value", .string "total")]) :=
    .object 981 _ (by decide) (List.forall_mem_singleton.mpr (.string 981 _))
  have unreadable : Document Limits.standard 982 (.object [("value", .int 7)]) :=
    .object 981 _ (by decide) (List.forall_mem_singleton.mpr (.int 981 7 (by decide)))
  have platforms : Document Limits.standard 983 (.object
      [("ga4", .object [("value", .string "total")]), ("facebook", .object [("value", .int 7)])]) :=
    .object 982 _ (by decide) (List.forall_mem_cons.mpr
      ⟨total, List.forall_mem_singleton.mpr unreadable⟩)
  have event : Document Limits.standard 984 (config.events.head (by simp [config])).encode :=
    .object 983 _ (by decide) (List.forall_mem_cons.mpr
      ⟨.string 983 _, List.forall_mem_singleton.mpr platforms⟩)
  have within : Document Limits.standard Limits.standard.nesting config.encode :=
    .object 985 _ (by decide) (List.forall_mem_cons.mpr ⟨.string 985 _, List.forall_mem_cons.mpr
      ⟨.string 985 _, List.forall_mem_cons.mpr
        ⟨.array 984 _ (List.forall_mem_singleton.mpr event),
          List.forall_mem_singleton.mpr (.string 985 _)⟩⟩⟩)
  have reads : CustomerConfig.ofText config.stored = .ok config :=
    (CustomerConfig.ofText_write_of_document (.inl rfl) within).1
  have loads : (engine.loadConfig (.string "acme")).outcome (.initial ()) =
      (.ok (some config), .initial ()) := loadConfig_run rfl reads
  refine ⟨⟨_, config, _, loads, rfl⟩,
    (process_of_readsAlike engine rfl _ _ layer layer' (.initial ()) ?_).1⟩
  rintro found ⟨loaded, t, loads', mapped⟩
  rw [loads] at loads'
  cases loads'
  cases mapped
  intro platform mapping isMapped name path isNamed
  rcases List.mem_cons.mp isMapped with first | second
  · cases first
    cases List.mem_singleton.mp isNamed
    rfl
  · cases List.mem_singleton.mp second
    cases List.mem_singleton.mp isNamed
    rfl

end Engine

end ConversionRelay
