import ConversionRelay.Proofs.Config.Generation
import ConversionRelay.Proofs.Engine.Branching
import ConversionRelay.Proofs.Engine.Loading
import ConversionRelay.Sender.Log
/-!
Branches that do not disturb each other.

Take two engines that differ in the sender of one platform, and two configurations of an event that
differ in its mapping. As long as the senders of the other platforms answer by nothing but what they
are given, and no sender changes what they may look at besides, what is left of the two runs when
the platform is hidden is the same: the same results, and the same calls in the same order.

Main statement: the other platforms are called with the same, answered with the same and logged
alike, and nothing that happens in the branch of the one platform reaches the caller
(`Engine.process_isolated`).
-/
namespace ConversionRelay

open OrderedMap

variable {ω α β : Type}

/-- A sender whose steps do not leave a world and depend, in that world, on nothing but what they
are given. -/
structure Sender.Steady (world : World ω) (sender : Sender ω) : Prop where
  build : ∀ event fields, Run.Steady world (sender.build event fields)
  send : ∀ payload, Run.Steady world (sender.send payload)

theorem Sender.Steady.keeps {world : World ω} {sender : Sender ω}
    (steady : sender.Steady world) : sender.Keeps world :=
  ⟨fun event fields => (steady.build event fields).1, fun payload => (steady.send payload).1⟩

section Senders

open Run

variable {world : World ω} {sender : Sender ω}

/-- What a steady sender makes of the fields of an event, it makes of them everywhere. -/
theorem Sender.Steady.prepare_settles (steady : sender.Steady world) (platform : Text)
    (event : EventData) (mapping : Fields) : ∃ prepared built,
      Yields world (fun result added => result = prepared ∧ added = built)
        (Engine.prepare (sender.watched platform) event mapping) := by
  unfold Engine.prepare
  cases DataLayer.readFields event.layer mapping with
  | error fault =>
    exact ⟨.error fault, [], .ofExcept_bind (fun _ same => ⟨same.symm, rfl⟩) fun _ => nofun⟩
  | ok fields =>
    obtain ⟨keeps, payload, is⟩ := steady.build event.name fields
    refine ⟨payload, [.built platform event.name fields payload],
      .ofExcept_bind (fun _ => nofun) fun _ same => ?_⟩
    cases same
    exact .noting (fun payload => [.built platform event.name fields payload]) keeps
      fun s within => by rw [is s within]; exact ⟨rfl, rfl⟩

/-- What a steady sender answers to a payload, it answers everywhere. -/
theorem Sender.Steady.send_settles (steady : sender.Steady world) (platform : Text)
    (payload : Value) : ∃ outcome,
      Yields world (fun result added => result = outcome ∧ added = [.sent platform payload outcome])
        ((sender.watched platform).send payload) := by
  obtain ⟨keeps, outcome, is⟩ := steady.send payload
  exact ⟨outcome, .noting (fun outcome => [.sent platform payload outcome]) keeps
    fun s within => by rw [is s within]; exact ⟨rfl, rfl⟩⟩

/-- What a log sender does at a time depends on nothing but what it is given. -/
theorem LogSender.steady (platform : Platform) (time : Instant) :
    (LogSender.sender platform : Sender ω).Steady (.atTime time) where
  build event fields := by
    refine ⟨fun s now => now, .ok (LogSender.payload platform time event fields), ?_⟩
    intro s now
    have is : s.now = time := now
    rw [← is]
    rfl
  send payload := ⟨fun s now => now, .ok (.taken platform), fun _ _ => rfl⟩

end Senders

namespace Engine

open Run

variable {world : World ω} {engine : Engine ω} {platform : Text}

section Branches

/-- A branch with a steady sender settles: its result and its calls are always the same. -/
theorem branch_settles
    (steady : ∀ sender, lookup? engine.senders platform = some sender → sender.Steady world)
    (event : EventData) (mapping : Fields) : ∃ shown calls,
      Gives world (fun result added => result = shown ∧ added = calls)
        (engine.watched.branch event platform mapping) := by
  unfold branch
  rw [lookup?_watched]
  cases served : lookup? engine.senders platform with
  | none =>
    exact ⟨_, [], (Gives.log _ _ _).bind fun _ _ nothing =>
      .pure ⟨rfl, by rw [nothing]; rfl⟩⟩
  | some sender =>
    have settled := steady sender served
    have failing (payload : Fields) (fault : Fault) (calls : List Call) :
        Gives world (fun result added => result = .failed (platform ++ " send failed") payload
          fault.text ∧ calls ++ added = calls) (branchFailed platform event payload fault) :=
      (branchFailed_gives platform event payload fault).weaken fun _ _ ⟨nothing, is⟩ =>
        ⟨is, by rw [nothing, List.append_nil]⟩
    obtain ⟨prepared, built, prepares⟩ := settled.prepare_settles platform event mapping
    cases prepared with
    | error fault =>
      refine ⟨.failed (platform ++ " send failed") [] fault.text, built,
        prepares.attempt.bind ?_⟩
      rintro _ _ ⟨rfl, rfl⟩
      exact failing [] fault _
    | ok payload =>
      obtain ⟨outcome, sends⟩ := settled.send_settles platform (.object payload)
      cases outcome with
      | error fault =>
        refine ⟨.failed (platform ++ " send failed") payload fault.text,
          built ++ [.sent platform (.object payload) (.error fault)], prepares.attempt.bind ?_⟩
        rintro _ built ⟨rfl, rfl⟩
        refine sends.attempt.bind ?_
        rintro _ _ ⟨rfl, rfl⟩
        have fails := failing payload fault
          (built ++ [.sent platform (.object payload) (.error fault)])
        exact fails.weaken fun _ more ⟨is, same⟩ => ⟨is, by rw [← List.append_assoc, same]⟩
      | ok outcome =>
        refine ⟨.ofOutcome payload outcome,
          built ++ [.sent platform (.object payload) (.ok outcome)], prepares.attempt.bind ?_⟩
        rintro _ _ ⟨rfl, rfl⟩
        refine sends.attempt.bind ?_
        rintro _ _ ⟨rfl, rfl⟩
        exact .pure ⟨rfl, by rw [List.append_nil]⟩

end Branches

section Pairs

/-- What is left of a branch when a platform is hidden: the result unless it is that platform's, and
the calls that do not go to its sender. -/
def ShowsOne (hidden name : Text) (head : Option PlatformResult) (others : List Call)
    (result : PlatformResult) (added : List Call) : Prop :=
  (if name == hidden then none else some result) = head ∧ Call.callsBut hidden added = others

/-- What is left of branches when one platform is hidden: the results of the others, and the calls
to their senders. -/
def Shows (hidden : Text) (seen : OrderedMap Text (Option PlatformResult)) (others : List Call)
    (results : OrderedMap Text PlatformResult) (added : List Call) : Prop :=
  hide hidden results = seen ∧ Call.callsBut hidden added = others

/-- Two engines that are alike but for the sender of one platform and for where they find their
configurations. No sender leaves the world, and those of the other platforms are steady in it. -/
structure AlikeBut (platform : Text) (world : World ω) (first second : Engine ω) : Prop where
  log : first.log = second.log
  senders : ∀ sibling ≠ platform, lookup? first.senders sibling = lookup? second.senders sibling
  steady : ∀ sibling ≠ platform, ∀ sender, lookup? first.senders sibling = some sender →
    sender.Steady world
  keeps : ∀ engine ∈ [first, second], ∀ sender, lookup? engine.senders platform = some sender →
    sender.Keeps world

variable {first second : Engine ω}

/-- The first branch shows what it shows, and the others what they show. -/
theorem branches_cons_gives {event : EventData} {name : Text} {mapping : Fields}
    {rest : PlatformMappings} {hidden : Text} {head : Option PlatformResult}
    {seen : OrderedMap Text (Option PlatformResult)} {calls others : List Call}
    (branch : Gives world (ShowsOne hidden name head calls)
      (engine.watched.branch event name mapping))
    (later : Gives world (Shows hidden seen others) (engine.watched.branches event rest)) :
    Gives world (Shows hidden ((name, head) :: seen) (calls ++ others))
      (engine.watched.branches event ((name, mapping) :: rest)) := by
  refine branch.bind fun result added ⟨shown, kept⟩ => ?_
  refine later.bind fun results more ⟨shown', kept'⟩ => .pure ⟨?_, ?_⟩
  · change (name, if name == hidden then none else some result) :: hide hidden results = _
    rw [shown, shown']
  · rw [List.append_nil, Call.callsBut_append, kept, kept']

/-- The branch of the hidden platform shows nothing, whatever its sender and its mapping are. -/
theorem branch_hidden (alike : AlikeBut platform world first second)
    (among : engine ∈ [first, second]) (event : EventData) (mapping : Fields) :
    Gives world (ShowsOne platform platform none [])
      (engine.watched.branch event platform mapping) := by
  have own := branch_gives (alike.keeps engine among) event mapping
  refine own.weaken fun result added branched => ⟨?_, Call.callsBut_eq_nil branched.platform⟩
  rw [beq_self_eq_true, if_pos rfl]

/-- The branch of any other platform is the same computation in both engines, and it settles. -/
theorem branch_visible (alike : AlikeBut platform world first second) {name : Text}
    (visible : name ≠ platform) (event : EventData) (mapping : Fields) : ∃ result calls,
      Gives world (ShowsOne platform name (some result) calls)
        (first.watched.branch event name mapping) ∧
      Gives world (ShowsOne platform name (some result) calls)
        (second.watched.branch event name mapping) := by
  obtain ⟨result, calls, settles⟩ := branch_settles (alike.steady name visible) event mapping
  have shows : Gives world (ShowsOne platform name (some result) (Call.callsBut platform calls))
      (first.watched.branch event name mapping) := by
    refine settles.weaken fun shown added ⟨is, same⟩ => ⟨?_, by rw [same]⟩
    rw [beq_eq_false_iff_ne.mpr visible, is]
    rfl
  have same : first.watched.branch event name mapping =
      second.watched.branch event name mapping := by
    rw [branch, branch, lookup?_watched, lookup?_watched, alike.senders name visible]
  exact ⟨result, _, shows, same ▸ shows⟩

/-- With one platform hidden, the branches of two engines show the same. -/
theorem branches_alike (alike : AlikeBut platform world first second) (event : EventData)
    {mappings mappings' : PlatformMappings}
    (same : hide platform mappings = hide platform mappings') : ∃ seen others,
      keys seen = keys mappings ∧
      Gives world (Shows platform seen others) (first.watched.branches event mappings) ∧
      Gives world (Shows platform seen others) (second.watched.branches event mappings') := by
  induction mappings generalizing mappings' with
  | nil =>
    have none : mappings' = [] := List.map_eq_nil_iff.mp same.symm
    subst none
    exact ⟨[], [], rfl, .pure ⟨rfl, rfl⟩, .pure ⟨rfl, rfl⟩⟩
  | cons entry rest ih =>
    cases mappings' with
    | nil => cases same
    | cons entry' rest' =>
      obtain ⟨name, mapping⟩ := entry
      obtain ⟨name', mapping'⟩ := entry'
      obtain ⟨heads, tails⟩ := List.cons.inj same
      obtain ⟨sameName, shown⟩ := Prod.mk.inj heads
      dsimp only at sameName shown
      subst sameName
      obtain ⟨seen, others, named, gives, gives'⟩ := ih tails
      have named (head : Option PlatformResult) :
          keys ((name, head) :: seen) = keys ((name, mapping) :: rest) := congrArg (name :: ·) named
      by_cases own : name = platform
      · subst own
        have first := branch_hidden alike List.mem_cons_self event mapping
        have second := branch_hidden alike (List.mem_cons_of_mem _ List.mem_cons_self) event mapping'
        exact ⟨(name, none) :: seen, [] ++ others, named none,
          branches_cons_gives first gives, branches_cons_gives second gives'⟩
      · -- Only the mapping of the hidden platform may differ, so this one is the same.
        rw [beq_eq_false_iff_ne.mpr own] at shown
        cases shown
        obtain ⟨result, calls, first, second⟩ := branch_visible alike own event mapping
        exact ⟨(name, some result) :: seen, calls ++ others, named (some result),
          branches_cons_gives first gives, branches_cons_gives second gives'⟩

end Pairs

section Runs

variable {first second : Engine ω} {customer : Value} {event : EventData} {s t : Session ω}
  {found : EventConfig} {seen : OrderedMap Text (Option PlatformResult)} {others : List Call}

/-- What others can tell of a dispatched event once one platform is hidden. -/
theorem seen_of_dispatches (dispatches : engine.Dispatches customer event s t found)
    (within : world.Holds t)
    (gives : Gives world (Shows platform seen others)
      (engine.watched.branches event found.mappings)) :
    ∃ results time,
      ((engine.process customer event).outcome s).1 =
        .ok (results.map fun entry => (entry.1, entry.2.record)) ∧
      hide platform results = seen ∧
      (∀ sibling ≠ platform,
        Call.callsTo sibling (engine.calls customer event s) = Call.callsTo sibling others) ∧
      Call.entries (engine.calls customer event s) =
        engine.log.toList.map fun _ => ⟨customer, event.name, reached results, time⟩ := by
  obtain ⟨results, branched, time, done, answer, ⟨hidden, kept⟩, toSenders, calls⟩ :=
    calls_of_dispatches dispatches within gives
  refine ⟨results, time, answer, hidden, fun sibling other => ?_, ?_⟩
  · rw [calls, Call.callsTo_around, ← kept, Call.callsTo_callsBut other]
  · rw [calls, Call.entries_around fun call member => ?_]
    obtain ⟨name, _, called⟩ := toSenders call member
    exact ⟨name, called⟩

/-- Whether a platform that is not hidden was reached can be told from what is left. -/
theorem mem_reached {sibling : Text} (other : sibling ≠ platform)
    (results : OrderedMap Text PlatformResult) : sibling ∈ reached results ↔
      ∃ result, (sibling, some result) ∈ hide platform results ∧ result.success = true := by
  simp only [mem_hide other, reached, keys, List.mem_map, List.mem_filter]
  constructor
  · rintro ⟨entry, ⟨member, success⟩, rfl⟩
    exact ⟨entry.2, member, success⟩
  · rintro ⟨result, member, success⟩
    exact ⟨(sibling, result), ⟨member, success⟩, rfl⟩

/-- An event is dispatched by both of two engines that differ in the sender of one platform, or by
neither, and then nothing tells the two runs apart. -/
theorem dispatches_alike (store : first.store = second.store) (hook : first.hook = second.hook)
    (customer : Value) (event : EventData) (s : Session ω) :
    (∃ t found, first.Dispatches customer event s t found ∧
      second.Dispatches customer event s t found) ∨
    (first.process customer event).outcome s = (second.process customer event).outcome s ∧
      first.calls customer event s = second.calls customer event s := by
  have store' : first.watched.store = second.watched.store := by rw [watched, watched, store]
  have hook' : first.watched.hook = second.watched.hook := by rw [watched, watched, hook]
  rcases dispatches_or_same store' hook' customer event (s.watched []) with
    ⟨t, found, dispatches⟩ | same
  · have dispatches := dispatches_of_watched dispatches
    exact .inl ⟨t.unwatched, found, dispatches, dispatches_congr store hook dispatches⟩
  · rw [process_watched, process_watched] at same
    obtain ⟨answer, after⟩ := Prod.mk.inj same
    refine .inr ⟨Prod.ext answer ?_, ?_⟩
    · exact congrArg Session.unwatched after
    · exact congrArg (fun session => session.party.2) after

/-- Engines that are alike but for the sender of one platform dispatch the same events and treat all
others alike, given the same store and hook. Where both dispatch an event, by mappings that are the
same but for the one platform, both answer with a record for every platform that is mapped, in
order. Every other platform has the same record in both, its sender is called with the same, and the
event log has it as reached in both or in neither. -/
theorem process_isolated (alike : AlikeBut platform world first second) (customer : Value)
    (event : EventData) :
    (first.store = second.store → first.hook = second.hook → ∀ s,
      (∃ t found, first.Dispatches customer event s t found ∧
        second.Dispatches customer event s t found) ∨
      (first.process customer event).outcome s = (second.process customer event).outcome s ∧
        first.calls customer event s = second.calls customer event s) ∧
    ∀ s s' t t' found found', first.Dispatches customer event s t found →
      second.Dispatches customer event s' t' found' → world.Holds t → world.Holds t' →
      hide platform found.mappings = hide platform found'.mappings →
      ∃ records records',
        ((first.process customer event).outcome s).1 = .ok records ∧
        ((second.process customer event).outcome s').1 = .ok records' ∧
        keys records = keys found.mappings ∧ keys records' = keys found.mappings ∧
        ∀ sibling ≠ platform,
          lookup? records sibling = lookup? records' sibling ∧
          Call.callsTo sibling (first.calls customer event s) =
            Call.callsTo sibling (second.calls customer event s') ∧
          (Call.entries (first.calls customer event s)).map (·.platforms.contains sibling) =
            (Call.entries (second.calls customer event s')).map (·.platforms.contains sibling) := by
  refine ⟨fun store hook => dispatches_alike store hook customer event, ?_⟩
  intro s s' t t' found found' dispatches dispatches' within within' same
  obtain ⟨seen, others, named, gives, gives'⟩ := branches_alike alike event same
  obtain ⟨results, time, answer, hidden, calls, entries⟩ :=
    seen_of_dispatches dispatches within gives
  obtain ⟨results', time', answer', hidden', calls', entries'⟩ :=
    seen_of_dispatches dispatches' within' gives'
  have keysOf {results : OrderedMap Text PlatformResult} (hidden : hide platform results = seen) :
      keys (results.map fun entry => (entry.1, entry.2.record)) = keys found.mappings := by
    rw [← named, ← hidden, keys_hide, keys, List.map_map]
    rfl
  refine ⟨_, _, answer, answer', keysOf hidden, keysOf hidden', fun sibling other => ⟨?_, ?_, ?_⟩⟩
  · have records : hide platform (results.map fun entry => (entry.1, entry.2.record)) =
        hide platform (results'.map fun entry => (entry.1, entry.2.record)) := by
      rw [hide_map, hide_map, hidden, hidden']
    exact lookup?_eq_of_hide records other
  · rw [calls sibling other, calls' sibling other]
  · have told : (reached results).contains sibling = (reached results').contains sibling := by
      rw [Bool.eq_iff_iff, List.contains_iff_mem, List.contains_iff_mem,
        mem_reached other, mem_reached other, hidden, hidden']
    rw [entries, entries', ← alike.log, List.map_map, List.map_map]
    exact List.map_congr_left fun _ _ => told

/-- An engine is like itself with another sender for one platform. -/
theorem alikeBut_put (steady : ∀ sender ∈ values engine.senders, sender.Steady world)
    {replacement : Sender ω} (keeps : replacement.Keeps world) : AlikeBut platform world engine
      { engine with senders := put engine.senders platform replacement } where
  log := rfl
  senders sibling other := (lookup?_put_of_ne replacement engine.senders (Ne.symm other)).symm
  steady sibling other sender served := steady sender (mem_values_of_lookup? served)
  keeps := by
    refine List.forall_mem_cons.mpr ⟨fun sender served => ?_,
      List.forall_mem_singleton.mpr fun sender served => ?_⟩
    · exact (steady sender (mem_values_of_lookup? served)).keeps
    · rw [lookup?_put_self] at served
      cases served
      exact keeps

/-- A purchase that one platform fails to take is taken by another all the same. -/
theorem process_isolated_failing :
    let paths : Signal → Option Text := fun signal =>
      if signal = .amount then some "total" else none
    let config : CustomerConfig := .ofEvents (.string "acme") (Signals.ofPaths paths).events
    let taking : Engine Unit :=
      { store := ⟨fun _ => pure (some config.stored), fun _ => pure ()⟩
        log := none
        senders := [("facebook", LogSender.sender .facebook), ("ga4", LogSender.sender .ga4)]
        hook := none }
    let failing : Sender Unit :=
      ⟨fun _ _ => throw .eventWithoutName, fun _ => throw .eventWithoutName⟩
    let losing := { taking with senders := put taking.senders "facebook" failing }
    let event : EventData := ⟨.string "purchase", .object [("total", .int 150)]⟩
    AlikeBut "facebook" (.atTime ⟨0, 0⟩) taking losing ∧ ∃ found records records',
      taking.Dispatches (.string "acme") event (.initial ()) (.initial ()) found ∧
      losing.Dispatches (.string "acme") event (.initial ()) (.initial ()) found ∧
      ((taking.process (.string "acme") event).outcome (.initial ())).1 = .ok records ∧
      ((losing.process (.string "acme") event).outcome (.initial ())).1 = .ok records' ∧
      lookup? records "ga4" = lookup? records' "ga4" := by
  intro paths config taking failing losing event
  have steady : ∀ sender ∈ values taking.senders, sender.Steady (.atTime ⟨0, 0⟩) :=
    List.forall_mem_cons.mpr ⟨LogSender.steady .facebook ⟨0, 0⟩,
      List.forall_mem_singleton.mpr (LogSender.steady .ga4 ⟨0, 0⟩)⟩
  have alike : AlikeBut "facebook" (.atTime ⟨0, 0⟩) taking losing :=
    alikeBut_put steady ⟨fun _ _ _ now => now, fun _ _ now => now⟩
  let signals := Signals.ofPaths fun signal => (paths signal).map Text.paired
  have led : signals.amount.isTruthy = true := by decide +kernel
  have mapped : (CustomerConfig.ofEvents (.string (Text.paired "acme")) signals.events).event?
      event.name = some signals.purchase :=
    (Signals.find?_events signals "purchase").trans (by rw [if_pos rfl, if_pos led])
  have reads := CustomerConfig.ofText_generated "acme" paths
  have dispatches : taking.Dispatches (.string "acme") event (.initial ()) (.initial ())
      signals.purchase :=
    ⟨_, _, loadConfig_run rfl reads, mapped, rfl⟩
  have dispatches' : losing.Dispatches (.string "acme") event (.initial ()) (.initial ())
      signals.purchase := dispatches_congr rfl rfl dispatches
  obtain ⟨records, records', answer, answer', _, _, others⟩ :=
    (process_isolated alike (.string "acme") event).2 _ _ _ _ _ _ dispatches dispatches' rfl rfl rfl
  exact ⟨alike, signals.purchase, records, records', dispatches, dispatches', answer, answer',
    (others "ga4" (by decide)).1⟩

end Runs

end Engine

end ConversionRelay
