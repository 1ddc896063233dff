import ConversionRelay.Proofs.Engine.Watching
/-!
What watched computations come to, and which calls they make.

A world is what sessions have in common that is not disturbed by what is written to the journal,
such as the time. `Yields` says of a watched computation how it ends and which calls it makes,
wherever in a world it starts, and that it does not leave the world; `Gives` says so of one that
ends well. Both are kept by sequencing, so what an engine does follows from what its parties do.

Main statements: at the end of an event, one entry with the platforms whose branch succeeded is
written to the event log, if there is one (`Engine.logEvent_gives`), and what a dispatched event
comes to is what its branches give (`Engine.calls_of_branches`, `Engine.calls_of_dispatches`).
-/
namespace ConversionRelay

variable {ω α β : Type}

/-- What sessions have in common that is not disturbed by what is written to the journal. -/
structure World (ω : Type) where
  Holds : Session ω → Prop
  journaling : ∀ s journal, Holds s → Holds { s with journal }

namespace World

/-- The world of all sessions. -/
def all : World ω := ⟨fun _ => True, fun _ _ _ => trivial⟩

/-- The world of all sessions at a time. -/
def atTime (time : Instant) : World ω := ⟨fun s => s.now = time, fun _ _ now => now⟩

end World

namespace Run

/-- A computation of watched parties that ends in a world wherever in it it starts, with a result
and with calls that meet a condition. -/
def Yields (world : World ω) (post : Except Fault α → List Call → Prop)
    (y : Run (Watched ω) α) : Prop :=
  ∀ s, world.Holds s → ∃ result added t, post result added ∧ world.Holds t ∧ ∀ calls,
    y.outcome (s.watched calls) = (result, t.watched (calls ++ added))

/-- A computation that does not leave a world. -/
def Keeps (world : World ω) (x : Run ω α) : Prop := ∀ s, world.Holds s → world.Holds (x.outcome s).2

/-- A computation that does not leave a world and ends the same wherever in it it starts. -/
def Steady (world : World ω) (x : Run ω α) : Prop :=
  Keeps world x ∧ ∃ result, ∀ s, world.Holds s → (x.outcome s).1 = result

/-- A computation of watched parties that ends well in a world wherever in it it starts, with a
value and with calls that meet a condition. -/
def Gives (world : World ω) (post : α → List Call → Prop) (y : Run (Watched ω) α) : Prop :=
  Yields world (fun result added => ∃ a, result = .ok a ∧ post a added) y

variable {world : World ω}

namespace Yields

variable {post : Except Fault α → List Call → Prop} {y : Run (Watched ω) α}

/-- A party that keeps to the world yields what it notes. -/
theorem noting (calls : Except Fault α → List Call) {x : Run ω α} (keeps : Keeps world x)
    (holds : ∀ s, world.Holds s → post (x.outcome s).1 (calls (x.outcome s).1)) :
    Yields world post (x.noting calls) := fun s within =>
  ⟨_, _, _, holds s within, keeps s within, outcome_noting calls x s⟩

/-- Behind a result that needs no session, only what that result is needs to be considered. -/
theorem ofExcept_bind {post : Except Fault β → List Call → Prop} {result : Except Fault α}
    {g : α → Run (Watched ω) β} (fails : ∀ fault, result = .error fault → post (.error fault) [])
    (next : ∀ a, result = .ok a → Yields world post (g a)) :
    Yields world post (Run.ofExcept result >>= g) := by
  cases result with
  | ok a => exact next a rfl
  | error fault =>
    exact fun s within => ⟨.error fault, [], s, fails fault rfl, within, fun calls => by
      rw [List.append_nil]; rfl⟩

theorem weaken {post' : Except Fault α → List Call → Prop} (yields : Yields world post y)
    (wider : ∀ result added, post result added → post' result added) : Yields world post' y := by
  intro s within
  obtain ⟨result, added, t, holds, inside, runs⟩ := yields s within
  exact ⟨result, added, t, wider result added holds, inside, runs⟩

/-- Whatever a computation yields, an attempt gives it. -/
theorem attempt (yields : Yields world post y) : Gives world post (Run.attempt y) := by
  intro s within
  obtain ⟨result, added, t, holds, inside, runs⟩ := yields s within
  refine ⟨.ok result, added, t, ⟨result, rfl, holds⟩, inside, fun calls => ?_⟩
  rw [attempt_run, runs]

end Yields

namespace Gives

variable {post : α → List Call → Prop} {y : Run (Watched ω) α}

theorem pure {a : α} (holds : post a []) : Gives world post (Pure.pure a) := fun s within =>
  ⟨.ok a, [], s, ⟨a, rfl, holds⟩, within, fun calls => by rw [List.append_nil]; rfl⟩

theorem log (level : Level) (area : Area) (message : Text) :
    Gives world (fun _ added => added = []) (Run.log level area message) := fun s within =>
  ⟨.ok (), [], _, ⟨(), rfl, rfl⟩,
    world.journaling s (s.journal ++ [.logged ⟨level, area, message⟩]) within,
    fun calls => by rw [List.append_nil]; rfl⟩

theorem clock : Gives world (fun _ added => added = []) Run.clock := fun s within =>
  ⟨.ok s.now, [], s, ⟨s.now, rfl, rfl⟩, within, fun calls => by rw [List.append_nil]; rfl⟩

theorem bind {post' : β → List Call → Prop} {g : α → Run (Watched ω) β} (first : Gives world post y)
    (second : ∀ a added, post a added →
      Gives world (fun b more => post' b (added ++ more)) (g a)) :
    Gives world post' (y >>= g) := by
  intro s within
  obtain ⟨_, added, t, ⟨a, rfl, holds⟩, inside, runs⟩ := first s within
  obtain ⟨result, more, t', holds', inside', runs'⟩ := second a added holds t inside
  refine ⟨result, added ++ more, t', holds', inside', fun calls => ?_⟩
  rw [outcome_bind_ok (runs calls), runs', List.append_assoc]

theorem weaken {post' : α → List Call → Prop} (gives : Gives world post y)
    (wider : ∀ a added, post a added → post' a added) : Gives world post' y :=
  Yields.weaken gives fun _ added ⟨a, is, holds⟩ => ⟨a, is, wider a added holds⟩

/-- What traces another computation makes nothing but calls of the kind that it notes. -/
theorem traced {noted : Call → Prop} {x : Run ω α} (gives : Gives world post y)
    (traces : Traces noted x y) :
    Gives world (fun a added => post a added ∧ ∀ call ∈ added, noted call) y := by
  intro s within
  obtain ⟨result, added, t, ⟨a, is, holds⟩, inside, runs⟩ := gives s within
  obtain ⟨added', allowed, runs'⟩ := traces s
  have same : added' = added := congrArg (fun outcome => outcome.2.party.2) <|
    (runs' []).symm.trans (runs [])
  exact ⟨result, added, t, ⟨a, is, holds, same ▸ allowed⟩, inside, runs⟩

end Gives

end Run

theorem Engine.branchFailed_gives {world : World ω} (platform : Text) (event : EventData)
    (payload : Fields) (fault : Fault) :
    Run.Gives world (fun result added => added = [] ∧
        result = .failed (platform ++ " send failed") payload fault.text)
      (branchFailed platform event payload fault) :=
  (Run.Gives.log _ _ _).bind fun _ _ nothing => .pure ⟨by rw [nothing]; rfl, rfl⟩

/-- At the end of an event its entry is written to the event log, if there is one. -/
theorem Engine.logEvent_gives (engine : Engine ω) (customer : Value)
    (event : EventData) (results : OrderedMap Text PlatformResult) :
    Run.Gives .all (fun _ added => ∃ time done, added = engine.log.toList.map fun _ =>
        .wrote ⟨customer, event.name, reached results, time⟩ done)
      (engine.watched.logEvent customer event results) := by
  unfold logEvent watched
  cases engine.log with
  | none => exact .pure ⟨⟨0, 0⟩, .ok (), rfl⟩
  | some log =>
    refine Run.Gives.clock.bind fun time _ nothing => ?_
    rw [nothing]
    let entry : LogEntry := ⟨customer, event.name, reached results, time⟩
    have writes : Run.Yields .all (fun done added => added = [.wrote entry done])
        (log.watched.write entry) :=
      .noting (fun done => [.wrote entry done]) (fun _ _ => trivial) fun _ _ => rfl
    refine writes.attempt.bind fun done _ wrote => ?_
    rw [wrote]
    cases done with
    | ok done => exact .pure ⟨time, .ok done, rfl⟩
    | error fault =>
      exact (Run.Gives.log _ _ _).weaken fun _ _ nothing =>
        ⟨time, .error fault, by rw [nothing]; rfl⟩

namespace Call

variable {customer : Value} {event : EventData} {answer : Except Fault Bool} {entry : LogEntry}
  {done : Except Fault Unit} {hook : Option α} {log : Option β} {branched : List Call}

/-- What surrounds the branches goes to no sender. -/
theorem callsTo_around (platform : Text) :
    callsTo platform ((hook.toList.map fun _ => .asked customer event answer) ++ branched ++
      log.toList.map fun _ => .wrote entry done) = callsTo platform branched := by
  have asked : callsTo platform (hook.toList.map fun _ => .asked customer event answer) = [] := by
    refine callsTo_eq_nil fun call member => ?_
    obtain ⟨_, _, rfl⟩ := List.mem_map.mp member
    nofun
  have written : callsTo platform (log.toList.map fun _ => .wrote entry done) = [] := by
    refine callsTo_eq_nil fun call member => ?_
    obtain ⟨_, _, rfl⟩ := List.mem_map.mp member
    nofun
  rw [callsTo_append, callsTo_append, asked, written, List.append_nil, List.nil_append]

/-- What surrounds the branches writes the one entry. -/
theorem entries_around
    (toSenders : ∀ call ∈ branched, ∃ platform, call.platform? = some platform) :
    entries ((hook.toList.map fun _ => .asked customer event answer) ++ branched ++
      log.toList.map fun _ => .wrote entry done) = log.toList.map fun _ => entry := by
  have asked : entries (hook.toList.map fun _ => .asked customer event answer) = [] := by
    refine entries_eq_nil fun call member => ?_
    obtain ⟨_, _, rfl⟩ := List.mem_map.mp member
    rfl
  have none : entries branched = [] := by
    refine entries_eq_nil fun call member => ?_
    obtain ⟨_, called⟩ := toSenders call member
    exact entry?_of_platform? called
  rw [entries_append, entries_append, asked, none]
  cases log <;> rfl

end Call

/-- The calls that are made for a dispatched event, if those of its branches are known: the hook was
asked, the branches made theirs, and the entry was written. -/
theorem Engine.calls_of_branches {engine : Engine ω} {customer : Value} {event : EventData}
    {s t u : Session ω} {found : EventConfig} {results : OrderedMap Text PlatformResult}
    {branched : List Call} (dispatches : engine.Dispatches customer event s t found)
    (branches : ∀ calls, (engine.watched.branches event found.mappings).outcome (t.watched calls) =
      (.ok results, u.watched (calls ++ branched))) :
    ∃ time done,
      ((engine.process customer event).outcome s).1 =
        .ok (results.map fun entry => (entry.1, entry.2.record)) ∧
      engine.calls customer event s =
        (engine.hook.toList.map fun _ => .asked customer event (.ok true)) ++ branched ++
          engine.log.toList.map fun _ =>
            .wrote ⟨customer, event.name, reached results, time⟩ done := by
  obtain ⟨_, written, v, ⟨_, rfl, time, done, wrote⟩, _, logs⟩ :=
    engine.logEvent_gives customer event results u trivial
  have runs : (engine.watched.process customer event).outcome (s.watched []) =
      (.ok (results.map fun entry => (entry.1, entry.2.record)),
        v.watched ((engine.hook.toList.map fun _ => .asked customer event (.ok true)) ++
          branched ++ written)) := by
    rw [process_of_dispatches (dispatches_watched dispatches []), dispatch,
      Run.outcome_bind_ok (branches _), Run.outcome_bind_ok (logs _)]
    rfl
  -- The watched run is the run of the engine itself, so its two halves can be read off.
  have same := (process_watched engine customer event s []).symm.trans runs
  obtain ⟨answer, after⟩ := Prod.mk.inj same
  have calls := congrArg (fun session => session.party.2) after
  exact ⟨time, done, answer, wrote ▸ calls⟩

/-- What a dispatched event comes to, with the calls that are made for it, is what its branches
give. -/
theorem Engine.calls_of_dispatches {engine : Engine ω} {customer : Value} {event : EventData}
    {s t : Session ω} {found : EventConfig} {world : World ω}
    {post : OrderedMap Text PlatformResult → List Call → Prop}
    (dispatches : engine.Dispatches customer event s t found) (within : world.Holds t)
    (gives : Run.Gives world post (engine.watched.branches event found.mappings)) :
    ∃ results branched time done,
      ((engine.process customer event).outcome s).1 =
        .ok (results.map fun entry => (entry.1, entry.2.record)) ∧
      post results branched ∧
      (∀ call ∈ branched,
        ∃ platform ∈ OrderedMap.keys found.mappings, call.platform? = some platform) ∧
      engine.calls customer event s =
        (engine.hook.toList.map fun _ => .asked customer event (.ok true)) ++ branched ++
          engine.log.toList.map fun _ =>
            .wrote ⟨customer, event.name, reached results, time⟩ done := by
  obtain ⟨_, branched, u, ⟨results, rfl, holds, toSenders⟩, _, branches⟩ :=
    gives.traced (engine.branches_traces event found.mappings) t within
  obtain ⟨time, done, answer, calls⟩ := calls_of_branches dispatches branches
  exact ⟨results, branched, time, done, answer, holds, toSenders, calls⟩

end ConversionRelay
