import ConversionRelay.Proofs.Engine.Outside
import ConversionRelay.Store
import Mathlib.Logic.Function.Basic
/-!
What stores of configurations keep.

Both stores keep for every customer the document that was saved last, and nothing that they do shows
outside of them (`ConfigStore.LastWrite`). So configurations can be saved and are given back, as long
as the store answers (`ConfigStore.Keeps`).

Main statements: the store in memory keeps what was written last (`ConfigStore.memory_lastWrite`),
and so does the one in the warehouse wherever the warehouse works
(`ConfigStore.warehouse_lastWrite`).
-/
namespace ConversionRelay

variable {ω : Type}

/-- A configuration of a customer can be saved in a session, and is given back afterwards. -/
def ConfigStore.Keeps (store : ConfigStore ω) (s : Session ω) : Prop :=
  ∀ (customer : Text) (config : CustomerConfig), config.customerId = .string customer →
    ∃ saved given, (store.save config).outcome s = (.ok (), saved) ∧
      (store.get (.string customer)).outcome saved = (.ok (some config.stored), given)

namespace ConfigStore

/-- The store in memory keeps configurations in every session. -/
theorem memory_keeps (s : Session ω) : memory.Keeps s := by
  intro customer config named
  let saved : Session ω :=
    { s with shelf := OrderedMap.put s.shelf (configKey config.customerId) config.stored }
  refine ⟨saved, saved, rfl, ?_⟩
  have found := OrderedMap.lookup?_put_self (configKey config.customerId) config.stored s.shelf
  rw [named] at found
  exact congrArg (fun document => (Except.ok document, saved)) (named ▸ found)

end ConfigStore

section Keys

theorem OrderedMap.lookup?_put_of_string {α : Type} (m : OrderedMap Value α) {customer other : Text}
    (differ : other ≠ customer) (v : α) :
    lookup? (put m (.string customer) v) (.string other) = lookup? m (.string other) := by
  have apart : (Value.string customer == Value.string other) = false := by
    rw [Value.string_beq]
    exact beq_eq_false_iff_ne.mpr differ.symm
  induction m with
  | nil => simp [put_nil, lookup?_cons, apart]
  | cons entry rest ih =>
    rw [put_cons]
    by_cases own : (entry.1 == Value.string customer) = true
    · rw [if_pos own, lookup?_cons, lookup?_cons, Value.eq_string_of_beq own, apart]
      rfl
    · rw [if_neg own, lookup?_cons, lookup?_cons, ih]

theorem configKey_string (customer : Text) : configKey (.string customer) = "config:" ++ customer :=
  rfl

theorem configKey_injective {customer other : Text}
    (same : configKey (.string customer) = configKey (.string other)) : customer = other := by
  rw [configKey_string, configKey_string] at same
  exact List.append_cancel_left same

end Keys

/-- A store that keeps, for every customer, the document that was saved last, and that shows nothing
of what it does outside. What the stores keep in a session says what this one has for a customer. -/
structure ConfigStore.LastWrite (store : ConfigStore ω) (content : Kept → Text → Option Text) :
    Prop where
  empty : ∀ customer, content ⟨[], []⟩ customer = none
  get : ∀ s : Session ω, s.warehouse.outage = none → ∀ customer, ∃ t,
    (store.get (.string customer)).outcome s = (.ok (content s.kept customer), t) ∧
      s.AlikeOutside t ∧ t.kept = s.kept
  save : ∀ s : Session ω, s.warehouse.outage = none → ∀ (customer : Text) (config : CustomerConfig),
    config.customerId = .string customer → ∃ t, (store.save config).outcome s = (.ok (), t) ∧
      s.AlikeOutside t ∧
      content t.kept = Function.update (content s.kept) customer (some config.stored)

section Stores

theorem ConfigStore.memory_lastWrite : (memory : ConfigStore ω).LastWrite fun kept customer =>
    OrderedMap.lookup? kept.shelf (configKey (.string customer)) where
  empty _ := rfl
  get s _ _ := ⟨s, rfl, .refl s, rfl⟩
  save s working customer config named := by
    refine ⟨_, rfl, { Session.AlikeOutside.refl s with }, ?_⟩
    funext other
    by_cases own : other = customer
    · subst own
      rw [Function.update_self, ← named]
      exact OrderedMap.lookup?_put_self _ _ _
    · rw [Function.update_of_ne own, named]
      exact OrderedMap.lookup?_put_of_ne _ _ fun same => own (configKey_injective same).symm

/-- The connection of a store does not show outside. -/
theorem Session.AlikeOutside.connectStore (s : Session ω) :
    s.AlikeOutside { s with opened := s.opened ++ [.store] } := by
  refine { refl s with opened := fun channel other => ?_ }
  simp [other]

/-- A call of the store to a warehouse that works does not show outside. -/
theorem Warehouse.call_outside (dataset : Dataset) (statement : Text)
    (parameters : Option (List QueryParameter)) {s : Session ω}
    (working : s.warehouse.outage = none) : ∃ t,
      (call dataset .store (.query statement parameters)).outcome s = (.ok (), t) ∧
        s.AlikeOutside t ∧ t.shelf = s.shelf ∧ t.warehouse = s.warehouse := by
  let asking : Effect := .warehouse (.query statement parameters)
  have opens : ∃ u, (Run.ensureOpen .store (.warehouse (.connect dataset.project))).outcome s =
      (.ok (), u) ∧ s.AlikeOutside u ∧ u.shelf = s.shelf ∧ u.warehouse = s.warehouse := by
    unfold Run.ensureOpen
    rw [Run.outcome_bind_ok (Run.outcome_session s)]
    split
    · refine ⟨_, rfl, ?_, rfl, rfl⟩
      exact (Session.AlikeOutside.connectStore s).trans (.ofStore (List.forall_mem_singleton.mpr rfl))
    · exact ⟨s, rfl, .refl s, rfl, rfl⟩
  obtain ⟨u, connects, outside, shelf, tables⟩ := opens
  refine ⟨{ u with journal := u.journal ++ [asking] }, ?_,
    outside.trans (.ofStore (List.forall_mem_singleton.mpr rfl)), shelf, tables⟩
  rw [call, Run.outcome_bind_ok connects]
  simp only [Run.outcome_bind, Run.outcome_record, Run.outcome_session, tables, working,
    Run.outcome_pure, asking]

theorem ConfigStore.warehouse_lastWrite (dataset : Dataset) :
    (warehouse dataset : ConfigStore ω).LastWrite fun kept customer =>
      OrderedMap.lookup? kept.configs (.string customer) where
  empty _ := rfl
  get s working customer := by
    obtain ⟨t, calls, outside, shelf, tables⟩ := Warehouse.call_outside dataset
      (Warehouse.readConfig dataset.configTable)
      (some [⟨"customer_id", "STRING", .string customer⟩]) working
    refine ⟨t, ?_, outside, by rw [Session.kept, Session.kept, shelf, tables]⟩
    simp only [warehouse, Warehouse.getConfig]
    rw [Run.outcome_bind_ok calls]
    simp only [Warehouse.keyOf, Value.isKey, if_true, Run.outcome_bind, Run.outcome_ofExcept,
      Run.outcome_session, Run.outcome_pure, tables, Session.kept]
  save s working customer config named := by
    obtain ⟨t, calls, outside, shelf, tables⟩ := Warehouse.call_outside dataset
      (Warehouse.replaceConfig dataset.configTable) (some [
        ⟨"customer_id", "STRING", config.customerId⟩,
        ⟨"config_json", "STRING", .string config.stored⟩,
        ⟨"version", "STRING", config.version⟩,
        ⟨"updated_at", "TIMESTAMP", .string s.now.text⟩]) working
    let put : Session ω := { t with warehouse := { t.warehouse with
      configs := OrderedMap.put t.warehouse.configs (.string customer) config.stored } }
    let line : Effect := .logged ⟨.info, .storage,
      "Saved tracking config for customer: " ++ config.customerId.text⟩
    have written : s.AlikeOutside put :=
      { outside with outage := outside.outage, report := outside.report }
    refine ⟨{ put with journal := put.journal ++ [line] }, ?_,
      written.trans (.ofStore (List.forall_mem_singleton.mpr rfl)), ?_⟩
    · simp only [warehouse, Warehouse.saveConfig]
      rw [Run.outcome_bind_ok (Run.outcome_clock s), Run.outcome_bind_ok calls]
      simp only [named, Warehouse.keyOf, Value.isKey, if_true, Run.outcome_bind,
        Run.outcome_ofExcept, Run.outcome_modify, Run.log_run, put, line]
    · funext other
      by_cases own : other = customer
      · subst own
        rw [Function.update_self]
        refine OrderedMap.lookup?_put_of_beq ?_ _ _
        rw [Value.string_beq, beq_self_eq_true]
      · rw [Function.update_of_ne own]
        refine (OrderedMap.lookup?_put_of_string t.warehouse.configs own config.stored).trans ?_
        rw [tables]
        rfl

/-- A store that keeps what was written last keeps configurations. -/
theorem ConfigStore.LastWrite.keeps {store : ConfigStore ω} {content : Kept → Text → Option Text}
    (own : store.LastWrite content) {s : Session ω} (working : s.warehouse.outage = none) :
    store.Keeps s := by
  intro customer config named
  obtain ⟨saved, saves, outside, has⟩ := own.save s working customer config named
  obtain ⟨given, gives, _⟩ := own.get saved (outside.outage ▸ working) customer
  refine ⟨saved, given, saves, ?_⟩
  rw [gives, has, Function.update_self]

/-- The store in the warehouse keeps configurations as long as the warehouse answers. -/
theorem ConfigStore.warehouse_keeps (dataset : Dataset) {s : Session ω}
    (answers : s.warehouse.outage = none) : (warehouse dataset).Keeps s :=
  (warehouse_lastWrite dataset).keeps answers

end Stores

end ConversionRelay
