import ConversionRelay.Proofs.Engine.Agreement
/-!
What of a session lies outside of the stores of configurations.

Two sessions are alike outside if they differ in nothing but what the stores keep, the connection to
a store, and what stores did. Parties that have nothing to do with the stores do the same in both:
they neither look at what is kept nor change it. The senders that the program brings along are such
parties, and so is the event log in the warehouse.

Main statements: `SenderKinds.senders_storeless` and `EventLog.warehouse_storeless`.
-/
namespace ConversionRelay

variable {ω α β : Type}

/-- Whether an effect may be one of a store. Entries are inserted by the event log alone. -/
def Effect.ofStore : Effect → Bool
  | .warehouse (.connect _) => true
  | .warehouse (.query _ _) => true
  | .logged line => line.area == .storage
  | _ => false

/-- What stores keep. -/
structure Kept where
  shelf : OrderedMap Text Text
  configs : OrderedMap Value Text

namespace Session

/-- What the stores keep in a session. -/
def kept (s : Session ω) : Kept := ⟨s.shelf, s.warehouse.configs⟩

/-- Sessions that differ in nothing but what has to do with stores. -/
structure AlikeOutside (s t : Session ω) : Prop where
  now : s.now = t.now
  issued : s.issued = t.issued
  replies : s.replies = t.replies
  party : s.party = t.party
  outage : s.warehouse.outage = t.warehouse.outage
  report : s.warehouse.insertReport = t.warehouse.insertReport
  opened : ∀ channel ≠ .store, s.opened.contains channel = t.opened.contains channel
  effects : s.journal.filter (!·.ofStore) = t.journal.filter (!·.ofStore)

namespace AlikeOutside

theorem refl (s : Session ω) : s.AlikeOutside s :=
  ⟨rfl, rfl, rfl, rfl, rfl, rfl, fun _ _ => rfl, rfl⟩

theorem symm {s t : Session ω} (alike : s.AlikeOutside t) : t.AlikeOutside s :=
  ⟨alike.now.symm, alike.issued.symm, alike.replies.symm, alike.party.symm, alike.outage.symm,
    alike.report.symm, fun channel other => (alike.opened channel other).symm, alike.effects.symm⟩

theorem trans {s t u : Session ω} (first : s.AlikeOutside t) (second : t.AlikeOutside u) :
    s.AlikeOutside u :=
  ⟨first.now.trans second.now, first.issued.trans second.issued,
    first.replies.trans second.replies, first.party.trans second.party,
    first.outage.trans second.outage, first.report.trans second.report,
    fun channel other => (first.opened channel other).trans (second.opened channel other),
    first.effects.trans second.effects⟩

/-- What is done in both sessions leaves them alike. -/
theorem record {s t : Session ω} (alike : s.AlikeOutside t) (effect : Effect) :
    AlikeOutside { s with journal := s.journal ++ [effect] }
      { t with journal := t.journal ++ [effect] } :=
  { alike with effects := by simp only [List.filter_append, alike.effects] }

/-- A connection that is opened in both sessions leaves them alike. -/
theorem connect {s t : Session ω} (alike : s.AlikeOutside t) (channel : Channel) :
    AlikeOutside { s with opened := s.opened ++ [channel] }
      { t with opened := t.opened ++ [channel] } :=
  { alike with
    opened := fun name other => by simp only [List.contains_append, alike.opened name other] }

/-- What a store does leaves a session alike. -/
theorem ofStore {s : Session ω} {effects : List Effect}
    (stored : ∀ effect ∈ effects, effect.ofStore = true) :
    s.AlikeOutside { s with journal := s.journal ++ effects } := by
  have nothing : effects.filter (!·.ofStore) = [] := by
    rw [List.filter_eq_nil_iff]
    intro effect member
    simp [stored effect member]
  exact { refl s with effects := by simp only [List.filter_append, nothing, List.append_nil] }

end AlikeOutside

end Session

/-- Sessions that are alike outside, in which the warehouse works and the stores keep what is given
for either of them. -/
def View.besideStores (kept kept' : Kept) : View ω where
  Alike s t := s.AlikeOutside t ∧ s.warehouse.outage = none ∧ s.kept = kept ∧ t.kept = kept'
  recording effect alike := ⟨alike.1.record effect, alike.2⟩

/-- A computation that neither looks at what stores keep nor changes it. -/
def Run.Storeless (x : Run ω α) : Prop := ∀ kept kept', Agree (View.besideStores kept kept') x x

/-- A sender that has nothing to do with stores. -/
structure Sender.Storeless (sender : Sender ω) : Prop where
  build : ∀ event fields, (sender.build event fields).Storeless
  send : ∀ payload, (sender.send payload).Storeless

namespace Run.Storeless

theorem ofExcept (result : Except Fault α) : (Run.ofExcept result : Run ω α).Storeless :=
  fun _ _ => .ofExcept result

theorem pure (a : α) : (Pure.pure a : Run ω α).Storeless := ofExcept (.ok a)

theorem throw (fault : Fault) : (MonadExcept.throw fault : Run ω α).Storeless :=
  ofExcept (.error fault)

theorem record (effect : Effect) : (Run.record effect : Run ω Unit).Storeless :=
  fun _ _ => .record effect

theorem log (level : Level) (area : Area) (message : Text) :
    (Run.log level area message : Run ω Unit).Storeless := record _

theorem clock : (Run.clock : Run ω Instant).Storeless := fun _ _ => .clock fun _ _ alike => alike.1.now

theorem bind {x : Run ω α} {f : α → Run ω β} (first : x.Storeless) (second : ∀ a, (f a).Storeless) :
    (x >>= f).Storeless := fun kept kept' =>
  .bind (first kept kept') fun a => second a kept kept'

theorem freshId : (Run.freshId : Run ω Text).Storeless := by
  intro kept kept' s t alike
  obtain ⟨outside, working, keeps, keeps'⟩ := alike
  have issued : s.issued + 1 = t.issued + 1 := congrArg (· + 1) outside.issued
  refine ⟨?_, { outside with issued }, working, keeps, keeps'⟩
  exact congrArg (fun number => Except.ok ("generated-" ++ Decimal.ofNat number)) issued

theorem nextReply : (Run.nextReply : Run ω HttpReply).Storeless := by
  intro kept kept' s t alike
  obtain ⟨outside, working, keeps, keeps'⟩ := alike
  have replies := outside.replies
  unfold Run.nextReply
  rw [outcome_ofStep, outcome_ofStep]
  cases given : s.replies with
  | nil =>
    rw [← replies, given]
    exact ⟨rfl, outside, working, keeps, keeps'⟩
  | cons reply rest =>
    rw [← replies, given]
    exact ⟨rfl, { outside with replies := rfl }, working, keeps, keeps'⟩

theorem exchange (request : HttpRequest) : (Run.exchange request : Run ω HttpReply).Storeless :=
  .bind (.record _) fun _ => .nextReply

/-- Connections of stores aside, the same ones are open in sessions that are alike. -/
theorem ensureOpen {channel : Channel} (other : channel ≠ .store) (opening : Effect) :
    (Run.ensureOpen channel opening : Run ω Unit).Storeless := by
  intro kept kept' s t alike
  obtain ⟨outside, working, keeps, keeps'⟩ := alike
  have same := outside.opened channel other
  unfold Run.ensureOpen
  rw [outcome_bind, outcome_bind, outcome_session, outcome_session]
  cases isOpen : s.opened.contains channel with
  | true =>
    rw [isOpen] at same
    simp only [isOpen, ← same, Bool.not_true, Bool.false_eq_true, if_false, outcome_pure]
    exact ⟨trivial, outside, working, keeps, keeps'⟩
  | false =>
    rw [isOpen] at same
    simp only [isOpen, ← same, Bool.not_false, if_true, outcome_bind, outcome_modify,
      outcome_record]
    exact ⟨trivial, (outside.connect channel).record opening, working, keeps, keeps'⟩

end Run.Storeless

section Parties

open Run

theorem LogSender.storeless (platform : Platform) :
    (LogSender.sender platform : Sender ω).Storeless where
  build _ _ := .bind .clock fun _ => .pure _
  send _ := .bind (.log _ _ _) fun _ => .pure _

theorem MetaSender.conclude_storeless (account : MetaAccount) (reply : HttpReply) :
    (MetaSender.conclude account reply : Run ω SendOutcome).Storeless := by
  cases reply with
  | transportFailure detail => exact .throw _
  | otherFailure detail => exact .throw _
  | response status text =>
    simp only [MetaSender.conclude]
    split
    · exact .bind (.ofExcept _) fun count => .bind (.log _ _ _) fun _ => .pure _
    · exact .bind (.log _ _ _) fun _ => .pure _

theorem MetaSender.storeless (account : MetaAccount) {channel : Channel} (other : channel ≠ .store) :
    (MetaSender.sender account channel : Sender ω).Storeless where
  build _ _ := .bind .clock fun _ => .ofExcept _
  send _ := .bind (.ensureOpen other _) fun _ => .bind (.ofExcept _) fun request =>
    .bind (.exchange request) fun reply => MetaSender.conclude_storeless account reply

theorem MeasurementSender.conclude_storeless (reply : HttpReply) :
    (MeasurementSender.conclude reply : Run ω SendOutcome).Storeless := by
  cases reply with
  | transportFailure detail => exact .throw _
  | otherFailure detail => exact .throw _
  | response status text =>
    simp only [MeasurementSender.conclude]
    split
    · exact .pure _
    · exact .bind (.log _ _ _) fun _ => .pure _

theorem MeasurementSender.reportDropped_storeless (event : Value) (fields : Fields) :
    (MeasurementSender.reportDropped event fields : Run ω Unit).Storeless := by
  unfold MeasurementSender.reportDropped
  induction fields.filter MeasurementSender.isPersonal with
  | nil => exact .pure ()
  | cons field rest ih => exact .bind (.log _ _ _) fun _ => ih

theorem MeasurementSender.clientId_storeless (params : MeasurementSender.Params) :
    (MeasurementSender.clientId params : Run ω Text).Storeless := by
  unfold MeasurementSender.clientId
  dsimp only
  split
  · exact .pure _
  · exact .freshId

theorem MeasurementSender.storeless (account : MeasurementAccount) {channel : Channel}
    (other : channel ≠ .store) : (MeasurementSender.sender account channel : Sender ω).Storeless where
  build event fields := .bind (MeasurementSender.reportDropped_storeless event fields) fun _ =>
    .pure _
  send _ := .bind (.ofExcept _) fun params =>
    .bind (MeasurementSender.clientId_storeless params) fun _ => .bind (.ofExcept _) fun _ =>
      .bind (.ensureOpen other _) fun _ => .bind (.ofExcept _) fun request =>
        .bind (.exchange request) fun reply => MeasurementSender.conclude_storeless reply

/-- The senders that the program brings along have nothing to do with stores. -/
theorem SenderKinds.senders_storeless (kinds : SenderKinds) :
    ∀ sender ∈ OrderedMap.values (kinds.senders : Senders ω), sender.Storeless := by
  intro sender member
  simp only [OrderedMap.values, SenderKinds.senders, List.map_map, List.mem_map] at member
  obtain ⟨⟨platform, kind⟩, _, rfl⟩ := member
  have other : Channel.sender platform ≠ .store := nofun
  cases kind with
  | log platform => exact LogSender.storeless platform
  | conversions account => exact MetaSender.storeless account other
  | measurement account => exact MeasurementSender.storeless account other

/-- The event log in the warehouse has nothing to do with stores. -/
theorem EventLog.warehouse_storeless (dataset : Dataset) (entry : LogEntry) :
    ((EventLog.warehouse dataset).write entry : Run ω Unit).Storeless := by
  have inserts : (Warehouse.call dataset .eventLog (.insert dataset.logTable [entry.row]) :
      Run ω Unit).Storeless := by
    have other : Channel.eventLog ≠ .store := nofun
    refine .bind (.ensureOpen other _) fun _ => .bind (.record _) fun _ => ?_
    rintro kept kept' s t ⟨outside, working, keeps, keeps'⟩
    rw [outcome_bind_ok (outcome_session s), outcome_bind_ok (outcome_session t), ← outside.outage,
      working]
    exact ⟨rfl, outside, working, keeps, keeps'⟩
  refine .bind inserts fun _ => ?_
  rintro kept kept' s t ⟨outside, working, keeps, keeps'⟩
  rw [outcome_bind_ok (outcome_session s), outcome_bind_ok (outcome_session t), ← outside.report]
  dsimp only
  split
  · exact ⟨rfl, outside, working, keeps, keeps'⟩
  · exact ⟨rfl, outside, working, keeps, keeps'⟩

end Parties

end ConversionRelay
