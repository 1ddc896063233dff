import ConversionRelay.Proofs.Engine.Loading
import ConversionRelay.Proofs.OrderedMap
/-!
Runs of two engines that cannot be told apart.

Two sessions may differ in what nobody looks at, such as the store of the other engine or what an
event log has taken in. A view says which differences are meant. Two computations agree in a view if
they come to the same result from sessions that are alike in it, and leave such sessions behind.
Agreement is kept by sequencing, so it passes from the parties of two engines to all that the
engines do with them.

Main statement: engines whose parties agree process events alike (`Engine.process_agree`).
-/
namespace ConversionRelay

/-- Which sessions are alike. What is done in both of them does not make them differ. -/
structure View (ω : Type) where
  Alike : Session ω → Session ω → Prop
  recording : ∀ {s t} (effect : Effect), Alike s t →
    Alike { s with journal := s.journal ++ [effect] } { t with journal := t.journal ++ [effect] }

/-- A view in which journals make no difference. -/
def View.Mute {ω : Type} (view : View ω) : Prop := ∀ s t journal journal', view.Alike s t →
  view.Alike { s with journal } { t with journal := journal' }

variable {ω α β : Type} {view : View ω}

namespace Run

/-- Computations that come to the same from sessions that are alike. -/
def Agree (view : View ω) (x y : Run ω α) : Prop := ∀ s t, view.Alike s t →
  (x.outcome s).1 = (y.outcome t).1 ∧ view.Alike (x.outcome s).2 (y.outcome t).2

namespace Agree

theorem ofExcept (result : Except Fault α) :
    Agree view (Run.ofExcept result) (Run.ofExcept result) := fun _ _ alike => ⟨rfl, alike⟩

theorem pure (a : α) : Agree view (Pure.pure a) (Pure.pure a) := ofExcept (.ok a)

theorem throw (fault : Fault) : Agree (α := α) view (MonadExcept.throw fault)
    (MonadExcept.throw fault) := ofExcept (.error fault)

theorem record (effect : Effect) : Agree view (Run.record effect) (Run.record effect) :=
  fun _ _ alike => ⟨rfl, view.recording effect alike⟩

theorem log (level : Level) (area : Area) (message : Text) :
    Agree view (Run.log level area message) (Run.log level area message) := record _

theorem clock (now : ∀ s t, view.Alike s t → s.now = t.now) :
    Agree view Run.clock Run.clock := fun s t alike => ⟨congrArg Except.ok (now s t alike), alike⟩

theorem bind {x y : Run ω α} {f g : α → Run ω β} (first : Agree view x y)
    (second : ∀ a, Agree view (f a) (g a)) : Agree view (x >>= f) (y >>= g) := by
  intro s t alike
  obtain ⟨same, after⟩ := first s t alike
  rcases ends : x.outcome s with ⟨result, s'⟩
  rcases ends' : y.outcome t with ⟨result', t'⟩
  rw [ends, ends'] at same after
  subst same
  cases result with
  | error fault =>
    rw [outcome_bind_error ends, outcome_bind_error ends']
    exact ⟨rfl, after⟩
  | ok a =>
    rw [outcome_bind_ok ends, outcome_bind_ok ends']
    exact second a s' t' after

theorem attempt {x y : Run ω α} (agree : Agree view x y) :
    Agree view (Run.attempt x) (Run.attempt y) := by
  intro s t alike
  obtain ⟨same, after⟩ := agree s t alike
  rw [attempt_run, attempt_run]
  exact ⟨congrArg Except.ok same, after⟩

end Agree

end Run

/-- A sender that does the same in sessions that are alike. -/
structure Sender.Respects (view : View ω) (sender : Sender ω) : Prop where
  build : ∀ event fields, Run.Agree view (sender.build event fields) (sender.build event fields)
  send : ∀ payload, Run.Agree view (sender.send payload) (sender.send payload)

/-- A log sender looks at nothing but the time. -/
theorem LogSender.respects (now : ∀ s t, view.Alike s t → s.now = t.now) (platform : Platform) :
    (LogSender.sender platform).Respects view where
  build _ _ := .bind (.clock now) fun _ => .pure _
  send _ := .bind (.log _ _ _) fun _ => .pure _

/-- Engines with the same senders and the same hook, which respect a view, and with event logs that
agree in it. -/
structure Engine.Twins (view : View ω) (first second : Engine ω) : Prop where
  senders : first.senders = second.senders
  hook : first.hook = second.hook
  sending : ∀ sender ∈ OrderedMap.values first.senders, sender.Respects view
  asking : ∀ hook, first.hook = some hook → ∀ customer event,
    Run.Agree view (hook customer event) (hook customer event)
  logging : ∀ customer event results,
    Run.Agree view (first.logEvent customer event results) (second.logEvent customer event results)

namespace Engine

open Run

variable {first second : Engine ω}

/-- Engines whose stores agree load the same configuration. -/
theorem loadConfig_agree {customer : Value}
    (getting : Agree view (first.store.get customer) (second.store.get customer)) :
    Agree view (first.loadConfig customer) (second.loadConfig customer) := by
  have fetches : Agree view (first.fetchConfig customer) (second.fetchConfig customer) := by
    refine .bind getting fun found => ?_
    cases found with
    | none => exact .pure none
    | some document =>
      dsimp only
      split
      · exact .pure none
      · exact .bind (.ofExcept _) fun config => .pure (some config)
  refine .bind (.attempt fetches) fun found => ?_
  cases found with
  | ok config => exact .pure config
  | error fault => exact .bind (.log _ _ _) fun _ => .pure none

theorem passes_agree (twins : Twins view first second) (customer : Value) (event : EventData) :
    Agree view (first.passes customer event) (second.passes customer event) := by
  unfold passes
  rw [← twins.hook]
  cases asked : first.hook with
  | none => exact .pure true
  | some hook => exact twins.asking hook asked customer event

theorem branch_agree (twins : Twins view first second) (event : EventData) (platform : Text)
    (mapping : Fields) :
    Agree view (first.branch event platform mapping) (second.branch event platform mapping) := by
  have failing (payload : Fields) (fault : Fault) :
      Agree view (branchFailed platform event payload fault)
        (branchFailed platform event payload fault) :=
    .bind (.log _ _ _) fun _ => .pure _
  unfold branch
  rw [← twins.senders]
  cases served : OrderedMap.lookup? first.senders platform with
  | none => exact .bind (.log _ _ _) fun _ => .pure _
  | some sender =>
    have respects := twins.sending sender (OrderedMap.mem_values_of_lookup? served)
    have prepares : Agree view (prepare sender event mapping) (prepare sender event mapping) :=
      .bind (.ofExcept _) fun fields => respects.build event.name fields
    refine .bind (.attempt prepares) fun prepared => ?_
    cases prepared with
    | error fault => exact failing [] fault
    | ok payload =>
      refine .bind (.attempt (respects.send (.object payload))) fun sent => ?_
      cases sent with
      | error fault => exact failing payload fault
      | ok outcome => exact .pure _

theorem branches_agree (twins : Twins view first second) (event : EventData)
    (mappings : PlatformMappings) :
    Agree view (first.branches event mappings) (second.branches event mappings) := by
  induction mappings with
  | nil => exact .pure []
  | cons entry rest ih =>
    exact .bind (branch_agree twins event entry.1 entry.2) fun result =>
      .bind ih fun others => .pure _

/-- Engines whose parties agree process the events of a customer alike. -/
theorem process_agree (twins : Twins view first second) {customer : Value}
    (getting : Agree view (first.store.get customer) (second.store.get customer))
    (event : EventData) : Agree view (first.process customer event)
      (second.process customer event) := by
  refine .bind (loadConfig_agree getting) fun found => ?_
  cases found with
  | none => exact .throw _
  | some config =>
    dsimp only
    cases config.event? event.name with
    | none => exact .throw _
    | some found =>
      refine .bind (passes_agree twins customer event) fun passes => ?_
      cases passes with
      | false => exact .bind (.log _ _ _) fun _ => .pure []
      | true =>
        refine .bind (branches_agree twins event found.mappings) fun results => ?_
        exact .bind (twins.logging customer event results) fun _ => .pure _

end Engine

/-- An event log whose writes make no difference in a view. -/
def EventLog.Unseen (view : View ω) (log : EventLog ω) : Prop := ∀ entry s t, view.Alike s t →
  view.Alike ((log.write entry).outcome s).2 t ∧ view.Alike s ((log.write entry).outcome t).2

/-- An engine whose store, senders and hook do the same in sessions that are alike. -/
structure Engine.Respects (view : View ω) (engine : Engine ω) : Prop where
  getting : ∀ customer, Run.Agree view (engine.store.get customer) (engine.store.get customer)
  sending : ∀ sender ∈ OrderedMap.values engine.senders, sender.Respects view
  asking : ∀ hook, engine.hook = some hook → ∀ customer event,
    Run.Agree view (hook customer event) (hook customer event)

namespace Engine

section Unseen

open Run

/-- Sessions stay alike when either engine writes its entry to an event log that is unseen. -/
theorem logEvent_unseen {engine : Engine ω} (mute : view.Mute)
    (unseen : ∀ log, engine.log = some log → log.Unseen view) (customer : Value) (event : EventData)
    (results : OrderedMap Text PlatformResult) {s t : Session ω} (alike : view.Alike s t) :
    view.Alike ((engine.logEvent customer event results).outcome s).2 t ∧
      view.Alike s ((engine.logEvent customer event results).outcome t).2 := by
  refine ⟨?_, ?_⟩
  · obtain ⟨u, runs, ⟨_, rfl⟩ | ⟨log, entry, journal, given, rfl⟩⟩ :=
      engine.logEvent_run customer event results s
    · rw [runs]
      exact alike
    · rw [runs]
      exact mute _ t journal t.journal (unseen log given entry s t alike).1
  · obtain ⟨u, runs, ⟨_, rfl⟩ | ⟨log, entry, journal, given, rfl⟩⟩ :=
      engine.logEvent_run customer event results t
    · rw [runs]
      exact alike
    · rw [runs]
      exact mute s _ s.journal journal (unseen log given entry s t alike).2

/-- An engine that respects a view in which two event logs make no difference is twin to itself with
the other log. -/
theorem twins_of_unseen {engine : Engine ω} (mute : view.Mute) (respects : engine.Respects view)
    (unseen : ∀ log, engine.log = some log → log.Unseen view) {log : Option (EventLog ω)}
    (unseen' : ∀ other, log = some other → other.Unseen view) :
    Twins view engine { engine with log } where
  senders := rfl
  hook := rfl
  sending := respects.sending
  asking := respects.asking
  logging customer event results := by
    intro s t alike
    let other : Engine ω := { engine with log }
    have unseenOther : ∀ log, other.log = some log → log.Unseen view := unseen'
    have written := (logEvent_unseen mute unseen customer event results alike).1
    have written' := (logEvent_unseen mute unseenOther customer event results written).2
    obtain ⟨u, runs, _⟩ := engine.logEvent_run customer event results s
    obtain ⟨u', runs', _⟩ := other.logEvent_run customer event results t
    rw [runs, runs'] at written'
    rw [runs, runs']
    exact ⟨rfl, written'⟩

end Unseen

end Engine

end ConversionRelay
