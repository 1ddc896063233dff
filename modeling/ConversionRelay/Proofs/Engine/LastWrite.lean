import ConversionRelay.Proofs.Store
/-!
Engines whose store keeps what was written last.

Engines that differ in nothing but their store cannot be told apart by what they answer, as long as
both stores keep what was written last. And what such an engine answers for a customer depends on
nothing but the configuration that was saved last for the customer.

Main statement: `Engine.performAll_latest`. The step lemma is `Engine.perform_alike`: whatever is
done, two stores that keep the same keep the same afterwards.

What is assumed: the senders, the hook and the event log have nothing to do with the stores
(`Engine.Storeless`), and the warehouse works.
-/
namespace ConversionRelay

variable {ω : Type}

section Histories

/-- What may be asked of an engine and its store: to save a configuration of a customer, to give the
document of a customer, and to process an event of a customer. -/
inductive Step where
  | save (config : CustomerConfig) (customer : Text) (own : config.customerId = .string customer)
  | get (customer : Text)
  | process (customer : Text) (event : EventData)

/-- What is answered to a step. -/
inductive Reply where
  | saved (done : Except Fault Unit)
  | given (document : Except Fault (Option Text))
  | processed (answer : Except Fault (OrderedMap Text Fields))

namespace Step

/-- The configuration of a customer that a step saves, if it does. -/
def savedFor? (customer : Text) : Step → Option CustomerConfig
  | save config owner _ => if owner = customer then some config else none
  | _ => none

/-- The configuration that was saved last for a customer in the course of some steps. -/
def lastSaved? (customer : Text) (history : List Step) : Option CustomerConfig :=
  (history.filterMap (savedFor? customer)).getLast?

theorem lastSaved?_cons (customer : Text) (step : Step) (rest : List Step) :
    lastSaved? customer (step :: rest) =
      (lastSaved? customer rest).or (step.savedFor? customer) := by
  rw [lastSaved?, lastSaved?, List.filterMap_cons]
  cases step.savedFor? customer with
  | none => exact (Option.or_none).symm
  | some config =>
    dsimp only
    rw [List.getLast?_cons]
    cases (rest.filterMap (savedFor? customer)).getLast? <;> rfl

theorem savedFor?_eq_some {customer : Text} {step : Step} {config : CustomerConfig} :
    step.savedFor? customer = some config ↔ ∃ own, step = .save config customer own := by
  constructor
  · intro saved
    cases step with
    | save other owner own =>
      simp only [savedFor?] at saved
      split at saved
      · rename_i same
        subst same
        cases saved
        exact ⟨own, rfl⟩
      · cases saved
    | get owner => cases saved
    | process owner event => cases saved
  · rintro ⟨own, rfl⟩
    simp [savedFor?]

/-- Nothing is what was saved last for a customer exactly if nothing was saved. -/
theorem lastSaved?_eq_none {customer : Text} {history : List Step} :
    lastSaved? customer history = none ↔ ∀ config own, save config customer own ∉ history := by
  rw [lastSaved?, List.getLast?_eq_none_iff, List.filterMap_eq_nil_iff]
  constructor
  · intro nothing config own member
    have saved := savedFor?_eq_some.mpr ⟨own, rfl⟩
    rw [nothing _ member] at saved
    cases saved
  · intro never step member
    by_contra saves
    obtain ⟨config, saved⟩ := Option.ne_none_iff_exists'.mp saves
    obtain ⟨own, rfl⟩ := savedFor?_eq_some.mp saved
    exact never config own member

theorem owner_of_lastSaved? {customer : Text} {history : List Step} {config : CustomerConfig}
    (saved : lastSaved? customer history = some config) : config.customerId = .string customer := by
  obtain ⟨step, _, saves⟩ := List.mem_filterMap.mp (List.mem_of_getLast? saved)
  obtain ⟨own, _⟩ := savedFor?_eq_some.mp saves
  exact own

end Step

namespace Engine

open Run

/-- Take a step. A fault that it ends with is its reply. -/
def perform (engine : Engine ω) : Step → Run ω Reply
  | .save config _ _ => do return .saved (← Run.attempt (engine.store.save config))
  | .get customer => do return .given (← Run.attempt (engine.store.get (.string customer)))
  | .process customer event => do
    return .processed (← Run.attempt (engine.process (.string customer) event))

/-- Take steps one after the other. -/
def performAll (engine : Engine ω) : List Step → Run ω (List Reply)
  | [] => return []
  | step :: rest => do
    let reply ← engine.perform step
    return reply :: (← engine.performAll rest)

/-- An engine whose senders, hook and event log have nothing to do with stores. -/
structure Storeless (engine : Engine ω) : Prop where
  senders : ∀ sender ∈ OrderedMap.values engine.senders, sender.Storeless
  hook : ∀ hook, engine.hook = some hook → ∀ customer event, (hook customer event).Storeless
  log : ∀ log, engine.log = some log → ∀ entry, (log.write entry).Storeless

variable {engine : Engine ω}

theorem Storeless.logEvent (storeless : engine.Storeless) (customer : Value) (event : EventData)
    (results : OrderedMap Text PlatformResult) :
    (engine.logEvent customer event results).Storeless := by
  unfold Engine.logEvent
  cases given : engine.log with
  | none => exact .pure ()
  | some log =>
    refine .bind .clock fun time => ?_
    have writes : (Run.attempt (log.write ⟨customer, event.name, reached results, time⟩)).Storeless :=
      fun kept kept' => .attempt (storeless.log log given _ kept kept')
    refine .bind writes fun written => ?_
    cases written with
    | ok done => exact .pure ()
    | error fault => exact .log _ _ _

/-- Engines that differ in their store alone are twins, as far as they have nothing to do with
stores. -/
theorem Storeless.twins (storeless : engine.Storeless) (store : ConfigStore ω)
    (kept kept' : Kept) :
    Twins (View.besideStores kept kept') engine { engine with store } where
  senders := rfl
  hook := rfl
  sending sender member :=
    ⟨fun event fields => (storeless.senders sender member).build event fields kept kept',
      fun payload => (storeless.senders sender member).send payload kept kept'⟩
  asking hook given customer event := storeless.hook hook given customer event kept kept'
  logging customer event results := storeless.logEvent customer event results kept kept'

variable {store other : ConfigStore ω} {content content' : Kept → Text → Option Text}

/-- Two stores that have the same document for a customer give the same. -/
theorem get_agree (own : store.LastWrite content) (others : other.LastWrite content')
    {kept kept' : Kept} {customer : Text} (same : content kept customer = content' kept' customer) :
    Agree (View.besideStores kept kept') (store.get (.string customer))
      (other.get (.string customer)) := by
  rintro s t ⟨outside, working, rfl, rfl⟩
  obtain ⟨s', gives, after, keeps⟩ := own.get s working customer
  obtain ⟨t', gives', after', keeps'⟩ := others.get t (outside.outage ▸ working) customer
  rw [gives, gives', same]
  exact ⟨rfl, after.symm.trans (outside.trans after'), after.outage ▸ working, keeps, keeps'⟩

/-- Where two stores have the same document for a customer, events of the customer are processed
alike, and what the stores keep is not touched. -/
theorem process_besideStores (storeless : engine.Storeless) (own : engine.store.LastWrite content)
    (others : other.LastWrite content') {s t : Session ω} (outside : s.AlikeOutside t)
    (working : s.warehouse.outage = none) {customer : Text}
    (same : content s.kept customer = content' t.kept customer) (event : EventData) :
    ∃ answer s' t', (engine.process (.string customer) event).outcome s = (answer, s') ∧
      (process { engine with store := other } (.string customer) event).outcome t = (answer, t') ∧
      s'.AlikeOutside t' ∧ s'.warehouse.outage = none ∧ s'.kept = s.kept ∧ t'.kept = t.kept := by
  have twins := storeless.twins other s.kept t.kept
  obtain ⟨same, after⟩ := process_agree twins (get_agree own others same) event s t
    ⟨outside, working, rfl, rfl⟩
  rcases runs : (engine.process (.string customer) event).outcome s with ⟨answer, s'⟩
  rcases runs' : (process { engine with store := other } (.string customer) event).outcome t
    with ⟨answer', t'⟩
  rw [runs, runs'] at same after
  cases same
  exact ⟨answer, s', t', rfl, rfl, after⟩

/-- Two stores that have the same documents reply to every step alike and have the same afterwards:
what they had, and the configuration that the step saved if it saved one. -/
theorem perform_alike (storeless : engine.Storeless) (own : engine.store.LastWrite content)
    (others : other.LastWrite content') {s t : Session ω} (outside : s.AlikeOutside t)
    (working : s.warehouse.outage = none) (same : content s.kept = content' t.kept) (step : Step) :
    ∃ reply s' t', (engine.perform step).outcome s = (.ok reply, s') ∧
      (perform { engine with store := other } step).outcome t = (.ok reply, t') ∧
      s'.AlikeOutside t' ∧ s'.warehouse.outage = none ∧ content s'.kept = content' t'.kept ∧
      ∀ customer, content s'.kept customer =
        ((step.savedFor? customer).map CustomerConfig.stored).or (content s.kept customer) := by
  have working' : t.warehouse.outage = none := outside.outage ▸ working
  cases step with
  | save config customer named =>
    obtain ⟨s', saves, after, keeps⟩ := own.save s working customer config named
    obtain ⟨t', saves', after', keeps'⟩ := others.save t working' customer config named
    refine ⟨.saved (.ok ()), s', t', ?_, ?_, after.symm.trans (outside.trans after'),
      after.outage ▸ working, ?_, ?_⟩
    · rw [perform, outcome_bind_attempt saves]
      rfl
    · rw [perform, outcome_bind_attempt saves']
      rfl
    · rw [keeps, keeps', same]
    · intro asked
      rw [keeps]
      by_cases owner : asked = customer
      · subst owner
        simp [Step.savedFor?]
      · simp [Step.savedFor?, owner, Ne.symm owner]
  | get customer =>
    obtain ⟨s', gives, after, keeps⟩ := own.get s working customer
    obtain ⟨t', gives', after', keeps'⟩ := others.get t working' customer
    refine ⟨.given (.ok (content s.kept customer)), s', t', ?_, ?_,
      after.symm.trans (outside.trans after'), after.outage ▸ working, ?_, ?_⟩
    · rw [perform, outcome_bind_attempt gives]
      rfl
    · rw [same, perform, outcome_bind_attempt gives']
      rfl
    · rw [keeps, keeps', same]
    · intro asked
      rw [keeps]
      rfl
  | process customer event =>
    obtain ⟨answer, s', t', runs, runs', after, works, keeps, keeps'⟩ :=
      process_besideStores storeless own others outside working (congrFun same customer) event
    refine ⟨.processed answer, s', t', ?_, ?_, after, works, ?_, ?_⟩
    · rw [perform, outcome_bind_attempt runs]
      rfl
    · rw [perform, outcome_bind_attempt runs']
      rfl
    · rw [keeps, keeps', same]
    · intro asked
      rw [keeps]
      rfl

/-- Two stores that have the same documents reply to every history alike and have the same
afterwards: for every customer the configuration that was saved last, and without one what they
had. -/
theorem performAll_alike (storeless : engine.Storeless) (own : engine.store.LastWrite content)
    (others : other.LastWrite content') (history : List Step) {s t : Session ω}
    (outside : s.AlikeOutside t) (working : s.warehouse.outage = none)
    (same : content s.kept = content' t.kept) :
    ∃ replies s' t', (engine.performAll history).outcome s = (.ok replies, s') ∧
      (performAll { engine with store := other } history).outcome t = (.ok replies, t') ∧
      s'.AlikeOutside t' ∧ s'.warehouse.outage = none ∧ content s'.kept = content' t'.kept ∧
      ∀ customer, content s'.kept customer =
        ((Step.lastSaved? customer history).map CustomerConfig.stored).or
          (content s.kept customer) := by
  induction history generalizing s t with
  | nil => exact ⟨[], s, t, rfl, rfl, outside, working, same, fun customer => rfl⟩
  | cons step rest ih =>
    obtain ⟨reply, s₁, t₁, runs, runs', outside₁, working₁, same₁, has₁⟩ :=
      perform_alike storeless own others outside working same step
    obtain ⟨replies, s₂, t₂, all, all', outside₂, working₂, same₂, has₂⟩ :=
      ih outside₁ working₁ same₁
    refine ⟨reply :: replies, s₂, t₂, ?_, ?_, outside₂, working₂, same₂, ?_⟩
    · rw [performAll, outcome_bind_ok runs, outcome_bind_ok all]
      rfl
    · rw [performAll, outcome_bind_ok runs', outcome_bind_ok all']
      rfl
    · intro customer
      rw [has₂, has₁, Step.lastSaved?_cons, Option.map_or, Option.or_assoc]

end Engine

/-- A session with nothing in its stores. -/
def Session.emptied (s : Session ω) : Session ω :=
  { s with shelf := [], warehouse := { s.warehouse with configs := [] } }

/-- A session whose store has nothing but a configuration, if there is one. -/
def ConfigStore.holding (store : ConfigStore ω) (config : Option CustomerConfig) (s : Session ω) :
    Session ω :=
  match config with
  | none => s.emptied
  | some config => ((store.save config).outcome s.emptied).2

/-- The answer to a step after a history is due to what was saved last for its customer. The store
gives the whole of it, or nothing if there is none, and an event is processed as it is where the
store has nothing but that. -/
def Engine.RepliesLatest (engine : Engine ω) (history : List Step) (s : Session ω) :
    Step → Reply → Session ω → Prop
  | .save _ _ _, reply, _ => reply = .saved (.ok ())
  | .get customer, reply, _ => ∃ document, reply = .given (.ok document) ∧
      document = (Step.lastSaved? customer history).map CustomerConfig.stored ∧
      (document = none ↔ ∀ config own, Step.save config customer own ∉ history)
  | .process customer event, reply, t => ∃ u,
      (engine.perform (.process customer event)).outcome
        (engine.store.holding (Step.lastSaved? customer history) s) = (.ok reply, u) ∧
      t.AlikeOutside u

theorem Session.alikeOutside_emptied (s : Session ω) : s.AlikeOutside s.emptied :=
  { Session.AlikeOutside.refl s with }

section Latest

variable {engine : Engine ω} {content : Kept → Text → Option Text}

/-- A store that holds a configuration of a customer has its document, and nothing else is
different. -/
theorem ConfigStore.LastWrite.holding {store : ConfigStore ω} (own : store.LastWrite content)
    {s : Session ω} (working : s.warehouse.outage = none) {customer : Text}
    {config : Option CustomerConfig}
    (named : ∀ given, config = some given → given.customerId = .string customer) :
    s.AlikeOutside (store.holding config s) ∧
      content (store.holding config s).kept customer = config.map CustomerConfig.stored := by
  cases config with
  | none => exact ⟨s.alikeOutside_emptied, own.empty customer⟩
  | some config =>
    obtain ⟨t, saves, outside, keeps⟩ := own.save s.emptied working customer config (named _ rfl)
    rw [ConfigStore.holding, saves]
    refine ⟨s.alikeOutside_emptied.trans outside, ?_⟩
    rw [keeps, Function.update_self]
    rfl

/-- Where a store has what was saved last for every customer, that is what steps are replied to
with. -/
theorem Engine.repliesLatest_of_content (storeless : engine.Storeless)
    (own : engine.store.LastWrite content) {s t : Session ω} (working : s.warehouse.outage = none)
    {history : List Step} {step : Step} {reply : Reply}
    (has : ∀ customer, content s.kept customer =
      (Step.lastSaved? customer history).map CustomerConfig.stored)
    (runs : (engine.perform step).outcome s = (.ok reply, t)) :
    engine.RepliesLatest history s step reply t := by
  cases step with
  | save config customer named =>
    obtain ⟨s', saves, _⟩ := own.save s working customer config named
    rw [perform, Run.outcome_bind_attempt saves] at runs
    cases runs
    rfl
  | get customer =>
    obtain ⟨s', gives, _⟩ := own.get s working customer
    rw [perform, Run.outcome_bind_attempt gives] at runs
    cases runs
    refine ⟨_, rfl, has customer, ?_⟩
    rw [has, Option.map_eq_none_iff, Step.lastSaved?_eq_none]
  | process customer event =>
    have named : ∀ config, Step.lastSaved? customer history = some config →
        config.customerId = .string customer := fun _ => Step.owner_of_lastSaved?
    obtain ⟨outside, holds⟩ := own.holding working named
    obtain ⟨answer, s', u, runs', fresh, after, _⟩ :=
      process_besideStores storeless own own outside working ((has customer).trans holds.symm) event
    rw [perform, Run.outcome_bind_attempt runs'] at runs
    cases runs
    refine ⟨u, ?_, after⟩
    rw [perform, Run.outcome_bind_attempt fresh]
    rfl

end Latest

namespace Engine

/-- Whatever has been saved, asked for and processed before, an engine with the store in memory and
one with the store in the warehouse reply alike, and they reply with what was saved last for the
customer in question. -/
theorem performAll_latest {engine : Engine ω} (storeless : engine.Storeless) (dataset : Dataset)
    (history : List Step) (step : Step) {s : Session ω} (working : s.warehouse.outage = none)
    (empty : s.kept = ⟨[], []⟩) :
    let memory : Engine ω := { engine with store := .memory }
    let warehouse : Engine ω := { engine with store := .warehouse dataset }
    ∃ replies reply t u t' u',
      (memory.performAll history).outcome s = (.ok replies, t) ∧
      (warehouse.performAll history).outcome s = (.ok replies, u) ∧
      (memory.perform step).outcome t = (.ok reply, t') ∧
      (warehouse.perform step).outcome u = (.ok reply, u') ∧
      t'.AlikeOutside u' ∧
      memory.RepliesLatest history t step reply t' ∧
      warehouse.RepliesLatest history u step reply u' := by
  intro memory warehouse
  have onShelf : memory.store.LastWrite _ := ConfigStore.memory_lastWrite
  have inTable : warehouse.store.LastWrite _ := ConfigStore.warehouse_lastWrite dataset
  have storeless₁ : memory.Storeless := { storeless with }
  have storeless₂ : warehouse.Storeless := { storeless with }
  have none₁ : ∀ customer, OrderedMap.lookup? s.kept.shelf (configKey (.string customer)) = none := by
    intro customer
    rw [empty]
    rfl
  have none₂ : ∀ customer : Text, OrderedMap.lookup? s.kept.configs (.string customer) = none := by
    intro customer
    rw [empty]
    rfl
  obtain ⟨replies, t, u, runs, runs', outside, works, same, has⟩ :=
    performAll_alike storeless₁ onShelf inTable history (.refl s) working
      (funext fun customer => (none₁ customer).trans (none₂ customer).symm)
  obtain ⟨reply, t', u', performs, performs', outside', _, _, _⟩ :=
    perform_alike storeless₁ onShelf inTable outside works same step
  have has₁ : ∀ customer, OrderedMap.lookup? t.kept.shelf (configKey (.string customer)) =
      (Step.lastSaved? customer history).map CustomerConfig.stored := by
    intro customer
    rw [has customer, none₁, Option.or_none]
  have has₂ : ∀ customer : Text, OrderedMap.lookup? u.kept.configs (.string customer) =
      (Step.lastSaved? customer history).map CustomerConfig.stored := by
    intro customer
    exact (congrFun same customer).symm.trans (has₁ customer)
  refine ⟨replies, reply, t, u, t', u', runs, runs', performs, performs', outside', ?_, ?_⟩
  · exact repliesLatest_of_content storeless₁ onShelf works has₁ performs
  · exact repliesLatest_of_content storeless₂ inTable (outside.outage ▸ works) has₂ performs'

/-- A shop has its configuration replaced by one without purchases. From then on both engines reply
to a purchase as if there had never been another. -/
theorem performAll_latest_replaced :
    let dataset : Dataset := ⟨"shop", "registry"⟩
    let mapping (name : Text) : CustomerConfig :=
      { customerId := .string "acme"
        containerId := .string "acme"
        events := [⟨.string name, [("ga4", [("value", .string "total")])]⟩]
        version := .string "1.0.0" }
    let purchase : EventData := ⟨.string "purchase", .object [("total", .int 5)]⟩
    let history : List Step := [.save (mapping "purchase") "acme" rfl, .process "acme" purchase,
      .get "globex", .save (mapping "lead") "acme" rfl]
    let engine : Engine Unit :=
      { store := .memory
        log := some (.warehouse dataset)
        senders := SenderKinds.standard.senders
        hook := none }
    let warehouse : Engine Unit := { engine with store := .warehouse dataset }
    let s : Session Unit := .initial ()
    engine.Storeless ∧ s.warehouse.outage = none ∧ s.kept = ⟨[], []⟩ ∧
      Step.lastSaved? "acme" history = some (mapping "lead") ∧
      ∃ replies reply t u t' u',
        (engine.performAll history).outcome s = (.ok replies, t) ∧
        (warehouse.performAll history).outcome s = (.ok replies, u) ∧
        (engine.perform (.process "acme" purchase)).outcome t = (.ok reply, t') ∧
        (warehouse.perform (.process "acme" purchase)).outcome u = (.ok reply, u') ∧
        t'.AlikeOutside u' ∧
        engine.RepliesLatest history t (.process "acme" purchase) reply t' ∧
        warehouse.RepliesLatest history u (.process "acme" purchase) reply u' := by
  intro dataset mapping purchase history engine warehouse s
  have storeless : engine.Storeless :=
    { senders := SenderKinds.senders_storeless .standard
      hook := nofun
      log := by
        intro log given entry
        cases given
        exact EventLog.warehouse_storeless dataset entry }
  exact ⟨storeless, rfl, rfl, rfl, performAll_latest storeless dataset history _ rfl rfl⟩

end Engine

end Histories

end ConversionRelay
