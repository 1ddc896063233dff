import ConversionRelay.Proofs.Config.RoundTrip
import ConversionRelay.Proofs.Engine.Agreement
import ConversionRelay.Proofs.Engine.Branching
/-!
What an engine does for an event, and that it does it once.

An event is refused, skipped or dispatched. One that is refused reaches no party of the engine, and
one that is skipped only the hook. For one that is dispatched, every platform that it is mapped to
has one branch, in which a payload is built at most once and sent once if it was built; and when all
branches are done one entry is written to the event log, with the platforms whose record says that
they were reached. `Goes` says so of one event, with all the calls that are made for it.

Main statement: of any number of events that are processed one after the other, each goes exactly
one of the three ways, whatever the parties of the engine do, and what is answered does not depend
on the event log (`Engine.processAll_goes`).
-/
namespace ConversionRelay.Engine

open OrderedMap Run

variable {ω : Type} {engine : Engine ω} {customer : Value} {event : EventData}

section Branches

/-- The branches of all platforms that an event is mapped to, one after the other. -/
inductive Branches (engine : Engine ω) (event : EventData) :
    PlatformMappings → OrderedMap Text PlatformResult → List Call → Prop
  | nil : Branches engine event [] [] []
  | cons {platform : Text} {mapping : Fields} {result : PlatformResult} {calls : List Call}
      {rest : PlatformMappings} {results : OrderedMap Text PlatformResult} {more : List Call}
      (branch : engine.Branched event platform mapping result calls)
      (others : Branches engine event rest results more) :
      Branches engine event ((platform, mapping) :: rest) ((platform, result) :: results)
        (calls ++ more)

theorem branches_gives (engine : Engine ω) (event : EventData) (mappings : PlatformMappings) :
    Gives .all (engine.Branches event mappings) (engine.watched.branches event mappings) := by
  induction mappings with
  | nil => exact .pure .nil
  | cons entry rest ih =>
    have first : Gives .all (engine.Branched event entry.1 entry.2)
        (engine.watched.branch event entry.1 entry.2) :=
      branch_gives (fun sender _ => sender.keeps_all) event entry.2
    refine first.bind fun result calls branch => ?_
    refine ih.bind fun results more others => .pure ?_
    rw [List.append_nil]
    exact .cons branch others

variable {mappings : PlatformMappings} {results : OrderedMap Text PlatformResult}
  {calls : List Call}

theorem Branches.keys_eq (branches : engine.Branches event mappings results calls) :
    keys results = keys mappings := by
  induction branches with
  | nil => rfl
  | cons branch others ih => rw [keys_cons, keys_cons, ih]

theorem Branches.platform_mem (branches : engine.Branches event mappings results calls) :
    ∀ call ∈ calls, ∃ platform ∈ keys mappings, call.platform? = some platform := by
  induction branches with
  | nil => exact List.forall_mem_nil _
  | cons branch others ih =>
    refine List.forall_mem_append.mpr ⟨?_, ?_⟩
    · intro call member
      exact ⟨_, List.mem_cons_self, branch.platform call member⟩
    · intro call member
      obtain ⟨platform, isKey, own⟩ := ih call member
      exact ⟨platform, List.mem_cons_of_mem _ isKey, own⟩

theorem Call.callsTo_eq_self {platform : Text} {calls : List Call}
    (own : ∀ call ∈ calls, call.platform? = some platform) : Call.callsTo platform calls = calls :=
  List.filter_eq_self.mpr fun call member => by simp [own call member]

/-- The sender of a platform is called in the one branch of the platform and nowhere else. -/
theorem Branches.callsTo (branches : engine.Branches event mappings results calls)
    (distinct : Distinct mappings) {platform : Text} {mapping : Fields}
    (mapped : (platform, mapping) ∈ mappings) : ∃ result, lookup? results platform = some result ∧
      engine.Branched event platform mapping result (Call.callsTo platform calls) := by
  induction branches with
  | nil => cases mapped
  | @cons name own result calls rest results more branch others ih =>
    obtain ⟨apart, distinct⟩ := List.nodup_cons.mp distinct
    rw [Call.callsTo_append]
    rcases List.mem_cons.mp mapped with same | mapped
    · cases same
      have elsewhere : Call.callsTo platform more = [] :=
        Call.callsTo_of_elsewhere apart others.platform_mem
      refine ⟨result, by simp [lookup?_cons], ?_⟩
      rw [Call.callsTo_eq_self branch.platform, elsewhere, List.append_nil]
      exact branch
    · have other : platform ≠ name := fun same =>
        apart (same ▸ List.mem_map.mpr ⟨_, mapped, rfl⟩)
      have elsewhere : Call.callsTo platform calls = [] :=
        Call.callsTo_of_other other branch.platform
      obtain ⟨result, found, branched⟩ := ih distinct mapped
      refine ⟨result, ?_, ?_⟩
      · rw [lookup?_cons, if_neg (by simpa using other.symm)]
        exact found
      · rw [elsewhere, List.nil_append]
        exact branched

end Branches

section Ways

/-- The platforms whose record says that they were reached. -/
def succeeded (records : OrderedMap Text Fields) : List Text :=
  keys (records.filter fun entry : Text × Fields => lookup? entry.2 "success" == some (.bool true))

theorem succeeded_records (results : OrderedMap Text PlatformResult) :
    succeeded (results.map fun entry => (entry.1, entry.2.record)) = reached results := by
  have told (entry : Text × PlatformResult) :
      (lookup? entry.2.record "success" == some (.bool true)) = entry.2.success := by
    rw [PlatformResult.success_record]
    cases entry.2.success <;> rfl
  rw [succeeded, List.filter_map, keys, List.map_map, reached, keys]
  simp only [Function.comp_def, told]

/-- What a call for an event may answer. -/
abbrev Answer := Except Fault (OrderedMap Text Fields)

/-- The three ways that an event may go. -/
inductive Way where
  | refused
  | skipped
  | dispatched
  deriving DecidableEq, Repr

/-- The configuration of a customer maps an event, as it is found in a session; of several events of
a name, the first one counts. -/
def Finds (engine : Engine ω) (customer : Value) (event : EventData) (s : Session ω)
    (found : EventConfig) : Prop :=
  ∃ config t, (engine.loadConfig customer).outcome s = (.ok (some config), t) ∧
    config.event? event.name = some found

/-- An event goes a way: what is answered, and all calls to the hook, to the senders and to the
event log, in order. -/
def Goes (engine : Engine ω) (customer : Value) (event : EventData) (s : Session ω)
    (answer : Answer) (calls : List Call) : Way → Prop
  | .refused => calls = [] ∧ ∃ t,
      (engine.loadConfig customer).outcome s = (.ok none, t) ∧
        answer = .error (.tracking (.configNotFound customer)) ∨
      ∃ config, (engine.loadConfig customer).outcome s = (.ok (some config), t) ∧
        config.event? event.name = none ∧
        answer = .error (.tracking (.eventNotConfigured customer event.name))
  | .skipped => ∃ found, engine.Finds customer event s found ∧ engine.hook.isSome ∧
      calls = [.asked customer event (.ok false)] ∧ answer = .ok []
  | .dispatched => ∃ found results branched time done, engine.Finds customer event s found ∧
      engine.Branches event found.mappings results branched ∧
      (∀ platform mapping, (platform, mapping) ∈ found.mappings →
        ∃ result, lookup? results platform = some result ∧
          engine.Branched event platform mapping result (Call.callsTo platform calls)) ∧
      calls = (engine.hook.toList.map fun _ => .asked customer event (.ok true)) ++ branched ++
        (engine.log.toList.map fun _ => .wrote ⟨customer, event.name,
          succeeded (results.map fun entry => (entry.1, entry.2.record)), time⟩ done) ∧
      answer = .ok (results.map fun entry => (entry.1, entry.2.record))

/-- The way that can be told from an answer and the calls that were made. -/
def wayOf : Answer → List Call → Way
  | .error _, _ => .refused
  | .ok _, .asked _ _ (.ok false) :: _ => .skipped
  | .ok _, _ => .dispatched

theorem Goes.way_eq {s : Session ω} {answer : Answer} {calls : List Call} {way : Way}
    (goes : engine.Goes customer event s answer calls way) : way = wayOf answer calls := by
  cases way with
  | refused =>
    obtain ⟨_, _, ⟨_, rfl⟩ | ⟨_, _, _, rfl⟩⟩ := goes
    · rfl
    · rfl
  | skipped =>
    obtain ⟨_, _, _, rfl, rfl⟩ := goes
    rfl
  | dispatched =>
    obtain ⟨_, _, branched, _, _, _, branches, _, rfl, rfl⟩ := goes
    cases engine.hook with
    | some hook => rfl
    | none =>
      cases branched with
      | nil => cases engine.log <;> rfl
      | cons call others =>
        obtain ⟨_, _, own⟩ := branches.platform_mem call List.mem_cons_self
        cases call <;> first | rfl | cases own

end Ways

section Events

/-- The hook of an engine, if it has one, always comes to an answer. -/
def HookAnswers (engine : Engine ω) : Prop := ∀ hook, engine.hook = some hook →
  ∀ customer event s, ∃ passes, ((hook customer event).outcome s).1 = .ok passes

theorem HookAnswers.passes_ends (answering : engine.HookAnswers) (customer : Value)
    (event : EventData) (s : Session ω) :
    ∃ passes t, (engine.passes customer event).outcome s = (.ok passes, t) := by
  unfold Engine.passes
  cases asked : engine.hook with
  | none => exact ⟨true, s, rfl⟩
  | some hook =>
    obtain ⟨passes, is⟩ := answering hook asked customer event s
    exact ⟨passes, _, Prod.ext is rfl⟩

/-- What a watched run leaves behind are the calls of the engine. -/
theorem calls_of_watched {s : Session ω} {answer : Answer} {t : Session (Watched ω)}
    (runs : (engine.watched.process customer event).outcome (s.watched []) = (answer, t)) :
    ((engine.process customer event).outcome s).1 = answer ∧
      engine.calls customer event s = t.party.2 := by
  rw [process_watched] at runs
  obtain ⟨same, rfl⟩ := Prod.mk.inj runs
  exact ⟨same, rfl⟩

/-- Every event goes one of the ways. -/
theorem process_goes (answering : engine.HookAnswers) (customer : Value) (event : EventData)
    (s : Session ω) : ∃ way, engine.Goes customer event s
      ((engine.process customer event).outcome s).1 (engine.calls customer event s) way := by
  obtain ⟨found?, loaded, loads, readable⟩ := engine.loadConfig_ends customer s
  have watchedLoads : (engine.watched.loadConfig customer).outcome (s.watched []) =
      (.ok found?, loaded.watched []) := by
    rw [loadConfig_watched, loads]
  cases found? with
  | none =>
    obtain ⟨answer, calls⟩ := calls_of_watched
      (process_of_no_config engine.watched customer event _ _ watchedLoads)
    exact ⟨.refused, calls, loaded, .inl ⟨loads, answer⟩⟩
  | some config =>
    cases mapped : config.event? event.name with
    | none =>
      obtain ⟨answer, calls⟩ := calls_of_watched (process_of_no_event watchedLoads mapped)
      exact ⟨.refused, calls, loaded, .inr ⟨config, loads, mapped, answer⟩⟩
    | some found =>
      have finds : engine.Finds customer event s found := ⟨config, loaded, loads, mapped⟩
      obtain ⟨passes, t, asks⟩ := answering.passes_ends customer event loaded
      cases passes with
      | false =>
        have hooked : engine.hook.isSome := by
          cases is : engine.hook with
          | some hook => rfl
          | none =>
            rw [Engine.passes, is] at asks
            cases asks
        have watchedAsks := engine.passes_watched customer event loaded []
        rw [asks] at watchedAsks
        have runs := process_of_event watchedLoads mapped
        rw [deliver, outcome_bind_ok watchedAsks] at runs
        obtain ⟨answer, calls⟩ := calls_of_watched runs
        obtain ⟨hook, is⟩ := Option.isSome_iff_exists.mp hooked
        refine ⟨.skipped, found, finds, hooked, ?_, answer⟩
        rw [calls, is]
        rfl
      | true =>
        have dispatches : engine.Dispatches customer event s t found :=
          ⟨config, loaded, loads, mapped, asks⟩
        obtain ⟨results, branched, time, done, answer, branches, toSenders, calls⟩ :=
          calls_of_dispatches dispatches trivial (engine.branches_gives event found.mappings)
        obtain ⟨document, reads⟩ := readable config rfl
        have distinct : Distinct found.mappings :=
          CustomerConfig.distinct_of_ofText reads (List.mem_of_find?_eq_some mapped)
        refine ⟨.dispatched, found, results, branched, time, done, finds, branches, ?_, ?_, answer⟩
        · intro platform mapping isMapped
          obtain ⟨result, bound, branch⟩ := branches.callsTo distinct isMapped
          refine ⟨result, bound, ?_⟩
          rw [calls, Call.callsTo_around]
          exact branch
        · rw [calls, succeeded_records]

end Events

section Sequences

/-- Process events of customers one after the other. A fault that one of them ends with is what it
answers, and the next one follows all the same. -/
def processAll (engine : Engine ω) : List (Value × EventData) → Run ω (List Answer)
  | [] => return []
  | (customer, event) :: rest => do
    let answer ← Run.attempt (engine.process customer event)
    return answer :: (← engine.processAll rest)

/-- The course of events that are processed one after the other, from one session to another: each
goes exactly one way, and the calls that are made for it follow those that were made before. -/
inductive Course (engine : Engine ω) :
    Session ω → List (Value × EventData) → List Answer → List Call → Session ω → Prop
  | nil (s : Session ω) : Course engine s [] [] [] s
  | cons {s t u : Session ω} {customer : Value} {event : EventData} {answer : Answer}
      {calls : List Call} {rest : List (Value × EventData)} {answers : List Answer}
      {more : List Call} (runs : (engine.process customer event).outcome s = (answer, t))
      (goes : ∃! way, engine.Goes customer event s answer calls way)
      (others : Course engine t rest answers more u) :
      Course engine s ((customer, event) :: rest) (answer :: answers) (calls ++ more) u

theorem Course.processAll_run {s t : Session ω} {events : List (Value × EventData)}
    {answers : List Answer} {calls : List Call}
    (course : engine.Course s events answers calls t) :
    (engine.processAll events).outcome s = (.ok answers, t) := by
  induction course with
  | nil s => rfl
  | cons runs goes others ih =>
    rw [processAll, outcome_bind_attempt runs, outcome_bind_ok ih]
    rfl

theorem course_of_answering (answering : engine.HookAnswers) (events : List (Value × EventData))
    (s : Session ω) : ∃ answers calls t, engine.Course s events answers calls t ∧ ∀ before,
      (engine.watched.processAll events).outcome (s.watched before) =
        (.ok answers, t.watched (before ++ calls)) := by
  induction events generalizing s with
  | nil =>
    refine ⟨[], [], s, .nil s, ?_⟩
    intro before
    rw [List.append_nil]
    rfl
  | cons entry rest ih =>
    obtain ⟨customer, event⟩ := entry
    obtain ⟨way, goes⟩ := process_goes answering customer event s
    rcases runs : (engine.process customer event).outcome s with ⟨answer, t⟩
    rw [runs] at goes
    obtain ⟨answers, more, u, others, watched⟩ := ih t
    have once : ∃! way, engine.Goes customer event s answer (engine.calls customer event s) way :=
      ⟨way, goes, fun other goes' => goes'.way_eq.trans goes.way_eq.symm⟩
    refine ⟨answer :: answers, engine.calls customer event s ++ more, u, .cons runs once others,
      ?_⟩
    intro before
    rw [processAll, outcome_bind_ok (attempt_run _ _), process_watched, runs,
      outcome_bind_ok (watched _), List.append_assoc]
    rfl

theorem processAll_agree {view : View ω} {first second : Engine ω}
    (twins : Twins view first second)
    (getting : ∀ customer, Agree view (first.store.get customer) (second.store.get customer))
    (events : List (Value × EventData)) :
    Agree view (first.processAll events) (second.processAll events) := by
  induction events with
  | nil => exact .pure []
  | cons entry rest ih =>
    exact .bind (.attempt (process_agree twins (getting entry.1) entry.2)) fun answer =>
      .bind ih fun answers => .pure _

/-- Whatever the store, the senders, the event log and a hook that comes to an answer do, each of
any number of events that are processed one after the other goes exactly one of the three ways, and
the calls made for it are the ones of its way. What it answers does not depend on the event log; and
if the event log makes no difference to the other parties, nor do later answers. -/
theorem processAll_goes (answering : engine.HookAnswers) (events : List (Value × EventData))
    (s : Session ω) :
    (∃ answers calls t, engine.Course s events answers calls t ∧
      (engine.processAll events).outcome s = (.ok answers, t) ∧
      (engine.watched.processAll events).outcome (s.watched []) = (.ok answers, t.watched calls)) ∧
    ∀ log : Option (EventLog ω),
      (∀ customer event s, ((process { engine with log } customer event).outcome s).1 =
        ((engine.process customer event).outcome s).1) ∧
      ∀ view : View ω, view.Mute → engine.Respects view →
        (∀ own, engine.log = some own → own.Unseen view) →
        (∀ other, log = some other → other.Unseen view) → ∀ t, view.Alike s t →
        ((processAll { engine with log } events).outcome t).1 =
          ((engine.processAll events).outcome s).1 := by
  refine ⟨?_, fun log => ⟨engine.process_log log, ?_⟩⟩
  · obtain ⟨answers, calls, t, course, watched⟩ := course_of_answering answering events s
    exact ⟨answers, calls, t, course, course.processAll_run, watched []⟩
  · intro view mute respects unseen unseen' t alike
    have twins := twins_of_unseen mute respects unseen unseen'
    exact (processAll_agree twins respects.getting events s t alike).1.symm

/-- Of two events of a shop, one that is mapped to a platform and one that is not mapped at all, each
goes its way, and an event log that always fails changes nothing. -/
theorem processAll_goes_failing_log :
    let config : CustomerConfig :=
      { customerId := .string "acme"
        containerId := .string "acme"
        events := [⟨.string "purchase", [("ga4", [("value", .string "total")])]⟩]
        version := .string "1.0.0" }
    let engine : Engine Unit :=
      { store := ⟨fun _ => pure (some config.stored), fun _ => pure ()⟩
        log := some ⟨fun _ => throw .eventWithoutName⟩
        senders := [("ga4", LogSender.sender .ga4)]
        hook := some fun _ _ => pure true }
    let layer : Value := .object [("total", .int 5)]
    let events : List (Value × EventData) := [
      (.string "acme", ⟨.string "purchase", layer⟩),
      (.string "acme", ⟨.string "refund", layer⟩)]
    engine.HookAnswers ∧ (∃ answers calls t, engine.Course (.initial ()) events answers calls t ∧
      (engine.processAll events).outcome (.initial ()) = (.ok answers, t)) ∧
      ((processAll { engine with log := none } events).outcome (.initial ())).1 =
        ((engine.processAll events).outcome (.initial ())).1 := by
  intro config engine layer events
  have answering : engine.HookAnswers := by
    intro hook given customer event s
    cases given
    exact ⟨true, rfl⟩
  let view : View Unit := ⟨fun s t => s.now = t.now, fun _ now => now⟩
  have mute : view.Mute := fun _ _ _ _ now => now
  have respects : engine.Respects view :=
    { getting := fun _ => .pure _
      sending := List.forall_mem_singleton.mpr (LogSender.respects (fun _ _ now => now) .ga4)
      asking := by
        intro hook given customer event
        cases given
        exact .pure true }
  have unseen : ∀ own, engine.log = some own → own.Unseen view := by
    intro own given entry s t alike
    cases given
    exact ⟨alike, alike⟩
  obtain ⟨⟨answers, calls, t, course, runs, _⟩, others⟩ :=
    processAll_goes answering events (.initial ())
  exact ⟨answering, ⟨answers, calls, t, course, runs⟩,
    (others none).2 view mute respects unseen nofun (.initial ()) rfl⟩

end Sequences

end ConversionRelay.Engine
