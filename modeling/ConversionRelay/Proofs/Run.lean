import ConversionRelay.Session
/-!
How computations run, step by step, in a session or behind the lines of the log.

Sequencing goes on in the session that the first computation leaves behind, and stops where it
fails. Computations that the program performs itself only ever add to the journal and never look at
what stands in it: `AppendsOnly` says so, together with what the added effects are like, and is kept
by sequencing. Two such computations can therefore be compared from sessions that differ in what was
done before.

Main statement: whatever a computation adds to the journal, and however it ends, does not depend on
the journal (`AppendsOnly`, closed under sequencing by `AppendsOnly.bind`).
-/
namespace ConversionRelay

/-- A session at the beginning of 1970 in which nothing has happened. -/
def Session.initial {ω : Type} (party : ω) : Session ω :=
  { now := ⟨0, 0⟩
    issued := 0
    replies := []
    shelf := []
    warehouse := ⟨[], none, .array []⟩
    opened := []
    journal := []
    party }

/-- Sequencing, from any state, of computations that may fail. -/
theorem run_bind_of_state {σ α β : Type} (x : ExceptT Fault (StateM σ) α)
    (f : α → ExceptT Fault (StateM σ) β) (s : σ) :
    StateT.run (ExceptT.run (x >>= f)) s = match StateT.run (ExceptT.run x) s with
      | (.ok a, after) => StateT.run (ExceptT.run (f a)) after
      | (.error fault, after) => (.error fault, after) := by
  simp only [ExceptT.run_bind, StateT.run_bind]
  cases StateT.run (ExceptT.run x) s with
  | mk result after => cases result <;> rfl

namespace Logged

variable {α β : Type}

/-- What a computation yields behind lines that were written before, and all lines afterwards. -/
def outcomeBehind (x : Logged α) (lines : List LogLine) : Except Fault α × List LogLine :=
  StateT.run (ExceptT.run x) lines

theorem outcomeBehind_ofExcept (result : Except Fault α) (lines : List LogLine) :
    (ofExcept result).outcomeBehind lines = (result, lines) := rfl

theorem outcomeBehind_write (level : Level) (area : Area) (message : Text) (lines : List LogLine) :
    (write level area message).outcomeBehind lines =
      (.ok (), lines ++ [⟨level, area, message⟩]) := rfl

/-- A computation that ends well is followed by the next one, behind its lines. -/
theorem outcomeBehind_bind_ok {x : Logged α} {f : α → Logged β} {lines after : List LogLine} {a : α}
    (ends : x.outcomeBehind lines = (.ok a, after)) :
    (x >>= f).outcomeBehind lines = (f a).outcomeBehind after := by
  rw [outcomeBehind, run_bind_of_state]
  rw [outcomeBehind] at ends
  rw [ends]
  rfl

end Logged

namespace Run

variable {ω α β : Type}

section Outcomes

@[simp] theorem outcome_pure (a : α) (s : Session ω) : (pure a : Run ω α).outcome s = (.ok a, s) :=
  rfl

@[simp] theorem outcome_ofStep (step : Session ω → Except Fault α × Session ω) (s : Session ω) :
    (ofStep step).outcome s = step s := rfl

@[simp] theorem outcome_ofExcept (result : Except Fault α) (s : Session ω) :
    (ofExcept result).outcome s = (result, s) := rfl

@[simp] theorem outcome_record (effect : Effect) (s : Session ω) :
    (record effect).outcome s = (.ok (), { s with journal := s.journal ++ [effect] }) := rfl

@[simp] theorem outcome_modify (change : Session ω → Session ω) (s : Session ω) :
    (modify change : Run ω Unit).outcome s = (.ok (), change s) := rfl

@[simp] theorem outcome_session (s : Session ω) : session.outcome s = (.ok s, s) := rfl

@[simp] theorem outcome_clock (s : Session ω) : clock.outcome s = (.ok s.now, s) := rfl

theorem outcome_bind (x : Run ω α) (f : α → Run ω β) (s : Session ω) :
    (x >>= f).outcome s = match x.outcome s with
      | (.ok a, after) => (f a).outcome after
      | (.error fault, after) => (.error fault, after) := by
  rw [outcome, outcome, run_bind_of_state]
  obtain ⟨result, after⟩ := StateT.run (ExceptT.run x) s
  cases result <;> rfl

/-- A computation that ends well is followed by the next one, where it left off. -/
theorem outcome_bind_ok {x : Run ω α} {f : α → Run ω β} {s after : Session ω} {a : α}
    (ends : x.outcome s = (.ok a, after)) : (x >>= f).outcome s = (f a).outcome after := by
  rw [outcome_bind, ends]

/-- A computation that fails is not followed by anything. -/
theorem outcome_bind_error {x : Run ω α} {f : α → Run ω β} {s after : Session ω} {fault : Fault}
    (ends : x.outcome s = (.error fault, after)) :
    (x >>= f).outcome s = (.error fault, after) := by
  rw [outcome_bind, ends]

/-- An attempt is followed by the next computation however it went. -/
theorem outcome_bind_attempt {x : Run ω α} {f : Except Fault α → Run ω β} {s after : Session ω}
    {result : Except Fault α} (ends : x.outcome s = (result, after)) :
    (attempt x >>= f).outcome s = (f result).outcome after := by
  rw [outcome_bind_ok (attempt_run x s), ends]

/-- A result that needs no session is settled before anything else. -/
theorem outcome_ofExcept_bind (result : Except Fault α) (f : α → Run ω β) (s : Session ω) :
    (ofExcept result >>= f).outcome s = match result with
      | .ok a => (f a).outcome s
      | .error fault => (.error fault, s) := by
  rw [outcome_bind, outcome_ofExcept]
  cases result <;> rfl

end Outcomes

/-- A computation that adds effects of a kind to the journal and never looks at it: wherever it
starts, its result, what it leaves behind and what it adds are the same for every journal. -/
def AppendsOnly (kind : Effect → Prop) (x : Run ω α) : Prop :=
  ∀ s : Session ω, ∃ (result : Except Fault α) (after : Session ω) (added : List Effect),
    (∀ effect ∈ added, kind effect) ∧ ∀ journal,
      x.outcome { s with journal } = (result, { after with journal := journal ++ added })

namespace AppendsOnly

variable {kind : Effect → Prop}

theorem mono {wider : Effect → Prop} {x : Run ω α} (appends : AppendsOnly kind x)
    (wide : ∀ effect, kind effect → wider effect) : AppendsOnly wider x := by
  intro s
  obtain ⟨result, after, added, allowed, runs⟩ := appends s
  exact ⟨result, after, added, fun effect member => wide effect (allowed effect member), runs⟩

/-- What leaves the session alone adds nothing. -/
theorem ofExcept (result : Except Fault α) :
    AppendsOnly kind (Run.ofExcept result : Run ω α) := fun s =>
  ⟨result, s, [], by simp, fun journal => by simp⟩

theorem pure (a : α) : AppendsOnly kind (Pure.pure a : Run ω α) := .ofExcept (.ok a)

theorem throw (fault : Fault) : AppendsOnly kind (MonadExcept.throw fault : Run ω α) :=
  .ofExcept (.error fault)

theorem record {effect : Effect} (allowed : kind effect) :
    AppendsOnly kind (Run.record effect : Run ω Unit) := fun s =>
  ⟨.ok (), s, [effect], by simpa using allowed, fun _ => rfl⟩

theorem log (level : Level) (area : Area) (message : Text)
    (allowed : kind (.logged ⟨level, area, message⟩)) :
    AppendsOnly kind (Run.log level area message : Run ω Unit) := .record allowed

/-- What changes and answers by the session without its journal adds nothing. -/
theorem ofStep {step : Session ω → Except Fault α × Session ω}
    (blind : ∀ s journal, step { s with journal } =
      ((step s).1, { (step s).2 with journal })) :
    AppendsOnly kind (Run.ofStep step) := fun s =>
  ⟨(step s).1, (step s).2, [], by simp, fun journal => by simpa using blind s journal⟩

/-- One after the other, computations add what each of them adds. -/
theorem bind {x : Run ω α} {f : α → Run ω β} (first : AppendsOnly kind x)
    (second : ∀ a, AppendsOnly kind (f a)) : AppendsOnly kind (x >>= f) := by
  intro s
  obtain ⟨result, after, added, allowed, runs⟩ := first s
  cases result with
  | error fault =>
    exact ⟨.error fault, after, added, allowed, fun journal => outcome_bind_error (runs journal)⟩
  | ok a =>
    obtain ⟨result', after', added', allowed', runs'⟩ := second a after
    refine ⟨result', after', added ++ added', ?_, fun journal => ?_⟩
    · intro effect member
      exact (List.mem_append.mp member).elim (allowed effect) (allowed' effect)
    · rw [outcome_bind_ok (runs journal), runs', List.append_assoc]

/-- Behind a result that needs no session, only what that result is needs to be considered. -/
theorem ofExcept_bind {result : Except Fault α} {f : α → Run ω β}
    (next : ∀ a, result = .ok a → AppendsOnly kind (f a)) :
    AppendsOnly kind (Run.ofExcept result >>= f) := by
  cases result with
  | ok a => exact next a rfl
  | error fault => exact .ofExcept (.error fault)

theorem ensureOpen (channel : Channel) {opening : Effect} (allowed : kind opening) :
    AppendsOnly kind (Run.ensureOpen channel opening : Run ω Unit) := by
  intro s
  cases closed : !s.opened.contains channel with
  | false =>
    refine ⟨.ok (), s, [], by simp, fun journal => ?_⟩
    simp only [Run.ensureOpen, outcome_bind, outcome_session, closed]
    simp
  | true =>
    refine ⟨.ok (), { s with opened := s.opened ++ [channel] }, [opening], by simpa using allowed,
      fun journal => ?_⟩
    simp only [Run.ensureOpen, outcome_bind, outcome_session, closed, if_true, outcome_modify,
      outcome_record]

theorem nextReply : AppendsOnly kind (Run.nextReply : Run ω HttpReply) :=
  .ofStep fun s journal => by cases replies : s.replies <;> simp [replies]

theorem exchange {request : HttpRequest} (allowed : kind (.requested request)) :
    AppendsOnly kind (Run.exchange request : Run ω HttpReply) :=
  .bind (.record allowed) fun _ => .nextReply

theorem freshId : AppendsOnly kind (Run.freshId : Run ω Text) := fun s =>
  ⟨.ok ("generated-" ++ Decimal.ofNat (s.issued + 1)), { s with issued := s.issued + 1 }, [],
    by simp, fun journal => by rw [List.append_nil]; rfl⟩

end AppendsOnly

end Run

end ConversionRelay
