import ConversionRelay.Config.Codec
import ConversionRelay.Proofs.Json.Limits
import Mathlib.Data.List.Forall2
/-!
Which documents are configurations, and of which ones.

A document is a configuration if it is an object with a customer and a list of events, and an event
is an object with a name and an object of platforms, each of them an object or null. Where the list
of events or the object of platforms is left out, or does not count as present, there are no events
or no platforms. All else that an object holds is of no concern, and neither is what names, paths
and identifiers are.

Main statement: a document is decoded exactly if it is a configuration, and then to the one that it
gives; a text is refused for what it says exactly if it is malformed, has too long an integer, or
does not spell a configuration (`CustomerConfig.decode_grammar`).
-/
namespace ConversionRelay

open OrderedMap Json

section Grammar

/-- Nothing is given: there is no value, or one that does not count as present. -/
def Vacant (given : Option Value) : Prop := ∀ v ∈ given, v.isTruthy = false

/-- The document of an event. -/
def IsEventDocument (item : Value) : Prop :=
  ∃ fields, item = .object fields ∧ (∃ name, lookup? fields "eventName" = some name) ∧
    (Vacant (lookup? fields "platformMappings") ∨ ∃ platforms,
      lookup? fields "platformMappings" = some (.object platforms) ∧
        ∀ platform ∈ platforms, platform.2 = .null ∨ ∃ mapping, platform.2 = .object mapping)

/-- The document of a configuration. -/
def IsConfigDocument (document : Value) : Prop :=
  ∃ fields, document = .object fields ∧
    (∃ customer, lookup? fields "customerId" = some customer) ∧
    (Vacant (lookup? fields "events") ∨ ∃ items,
      lookup? fields "events" = some (.array items) ∧ ∀ item ∈ items, IsEventDocument item)

/-- Whether a platform is mapped; one that is null is left out. -/
def mapsPlatform (platform : Text × Value) : Bool := !platform.2.isNull

/-- The mappings of the platforms that are given: those that are not null, in their order. -/
inductive GivesMappings : Option Value → PlatformMappings → Prop
  | vacant {given : Option Value} (nothing : Vacant given) : GivesMappings given []
  | object {platforms : Fields} {mappings : PlatformMappings}
      (each : List.Forall₂ (fun platform entry => platform = (entry.1, Value.object entry.2))
        (platforms.filter mapsPlatform) mappings) :
      GivesMappings (some (.object platforms)) mappings

/-- The event of a document. -/
def GivesEvent (item : Value) (event : EventConfig) : Prop :=
  ∃ fields, item = .object fields ∧ lookup? fields "eventName" = some event.name ∧
    GivesMappings (lookup? fields "platformMappings") event.mappings

/-- The events of the documents that are given, in their order. -/
inductive GivesEvents : Option Value → List EventConfig → Prop
  | vacant {given : Option Value} (nothing : Vacant given) : GivesEvents given []
  | array {items : List Value} {events : List EventConfig}
      (each : List.Forall₂ GivesEvent items events) : GivesEvents (some (.array items)) events

/-- The configuration of an object. Its container and its version have to be named only where they
are not those of every other configuration of the customer. -/
structure GivesConfig (fields : Fields) (config : CustomerConfig) : Prop where
  customer : lookup? fields "customerId" = some config.customerId
  container : config.containerId = (lookup? fields "containerId").getD config.customerId
  version : config.version = (lookup? fields "version").getD (.string currentVersion)
  events : GivesEvents (lookup? fields "events") config.events

end Grammar

section Lists

variable {ε α β : Type} {xs : List α}

theorem mapM_eq_ok {f : α → Except ε β} {ys : List β} :
    xs.mapM f = .ok ys ↔ List.Forall₂ (fun x y => f x = .ok y) xs ys := by
  induction xs generalizing ys with
  | nil => exact ⟨fun | rfl => .nil, fun | .nil => rfl⟩
  | cons x xs ih =>
    rw [List.mapM_cons, List.forall₂_cons_left_iff]
    constructor
    · intro mapped
      cases first : f x with
      | error problem =>
        rw [first] at mapped
        cases mapped
      | ok y =>
        cases others : xs.mapM f with
        | error problem =>
          rw [first, others] at mapped
          cases mapped
        | ok ys =>
          rw [first, others] at mapped
          cases mapped
          exact ⟨y, ys, rfl, ih.mp others, rfl⟩
    · rintro ⟨y, ys, first, others, rfl⟩
      rw [first, ih.mpr others]
      rfl

/-- Items are related to some list if each is related to something. -/
theorem exists_forall₂ {R : α → β → Prop} : (∃ ys, List.Forall₂ R xs ys) ↔ ∀ x ∈ xs, ∃ y, R x y := by
  induction xs with
  | nil => simp
  | cons x xs ih =>
    rw [List.forall_mem_cons, ← ih]
    constructor
    · rintro ⟨_, related⟩
      cases related with
      | cons first others => exact ⟨⟨_, first⟩, _, others⟩
    · rintro ⟨⟨y, first⟩, ys, others⟩
      exact ⟨y :: ys, .cons first others⟩

end Lists

section Decoding

variable {fields : Fields} {given : Option Value}

theorem isTruthy_getD_null : (given.getD .null).isTruthy = false ↔ Vacant given := by
  cases given with
  | none => exact iff_of_true rfl nofun
  | some v => simp [Vacant]

theorem exists_of_not_vacant (something : ¬Vacant given) :
    ∃ v, given = some v ∧ v.isTruthy = true := by
  cases given with
  | none => exact absurd nofun something
  | some v => exact ⟨v, rfl, by simpa [Vacant] using something⟩

/-- The mapping of a platform. -/
def mappingOf : Text × Value → Except ConfigProblem (Text × Fields)
  | (platform, .object mapping) => .ok (platform, mapping)
  | (platform, _) => .error (.mappingNotObject platform)

theorem mappingOf_eq_ok {platform : Text × Value} {entry : Text × Fields} :
    mappingOf platform = .ok entry ↔ platform = (entry.1, .object entry.2) := by
  constructor
  · intro maps
    unfold mappingOf at maps
    split at maps <;> cases maps
    rfl
  · rintro rfl
    rfl

/-- The platforms that are not null are read one after the other. -/
theorem mappingsOf_eq_mapM (fields : Fields) :
    mappingsOf fields = (fields.filter mapsPlatform).mapM mappingOf := by
  induction fields using mappingsOf.induct with
  | case1 => rfl
  | case2 platform rest ih => exact ih
  | case3 platform mapping rest ih =>
    rw [mappingsOf, ih, List.filter_cons_of_pos rfl, List.mapM_cons, mappingOf]
    cases (rest.filter mapsPlatform).mapM mappingOf <;> rfl
  | case4 platform other rest notNull notObject =>
    have mapped : mapsPlatform (platform, other) = true := by
      rw [mapsPlatform, Value.isNull_eq_false notNull]
      rfl
    rw [mappingsOf, List.filter_cons_of_pos mapped, List.mapM_cons, mappingOf]
    · rfl
    · exact notObject
    · exact notNull
    · exact notObject

theorem mappingsOf_eq_ok {mappings : PlatformMappings} : mappingsOf fields = .ok mappings ↔
    List.Forall₂ (fun platform entry => platform = (entry.1, Value.object entry.2))
      (fields.filter mapsPlatform) mappings := by
  simp only [mappingsOf_eq_mapM, mapM_eq_ok, mappingOf_eq_ok]

theorem ofMappings_vacant (nothing : Vacant given) (name : Value) :
    EventConfig.ofMappings name (given.getD .null) = .ok ⟨name, []⟩ :=
  if_neg (by rw [isTruthy_getD_null.2 nothing]; exact Bool.false_ne_true)

theorem ofMappings_object (name : Value) (platforms : Fields) :
    EventConfig.ofMappings name (.object platforms) = (mappingsOf platforms).map (⟨name, ·⟩) := by
  cases platforms <;> rfl

theorem ofMappings_eq_ok {name : Value} {event : EventConfig} :
    EventConfig.ofMappings name (given.getD .null) = .ok event ↔
      event.name = name ∧ GivesMappings given event.mappings := by
  constructor
  · intro read
    by_cases nothing : Vacant given
    · rw [ofMappings_vacant nothing] at read
      cases read
      exact ⟨rfl, .vacant nothing⟩
    · obtain ⟨v, rfl, present⟩ := exists_of_not_vacant nothing
      rw [Option.getD_some] at read
      cases v with
      | object platforms =>
        rw [ofMappings_object] at read
        cases found : mappingsOf platforms with
        | error problem =>
          rw [found] at read
          cases read
        | ok mappings =>
          rw [found] at read
          cases read
          exact ⟨rfl, .object (mappingsOf_eq_ok.1 found)⟩
      | _ =>
        rw [EventConfig.ofMappings, if_pos present] at read
        · cases read
        · intro inner same
          cases same
  · obtain ⟨own, mappings⟩ := event
    rintro ⟨rfl, gives⟩
    cases gives with
    | vacant nothing => exact ofMappings_vacant nothing own
    | object each =>
      rw [Option.getD_some, ofMappings_object, mappingsOf_eq_ok.2 each]
      rfl

theorem EventConfig.decode_eq_ok {item : Value} {event : EventConfig} :
    decode item = .ok event ↔ GivesEvent item event := by
  constructor
  · intro decoded
    unfold decode at decoded
    split at decoded
    · split at decoded
      · rename_i fields _ name named
        obtain ⟨rfl, gives⟩ := ofMappings_eq_ok.1 decoded
        exact ⟨fields, rfl, named, gives⟩
      · cases decoded
    · cases decoded
  · rintro ⟨fields, rfl, named, gives⟩
    rw [decode, named]
    exact ofMappings_eq_ok.2 ⟨rfl, gives⟩

theorem decodeEvents_vacant (nothing : Vacant given) :
    CustomerConfig.decodeEvents (given.getD .null) = .ok [] :=
  if_neg (by rw [isTruthy_getD_null.2 nothing]; exact Bool.false_ne_true)

theorem decodeEvents_array (items : List Value) :
    CustomerConfig.decodeEvents (.array items) = items.mapM EventConfig.decode := by
  cases items <;> rfl

theorem decodeEvents_eq_ok {events : List EventConfig} :
    CustomerConfig.decodeEvents (given.getD .null) = .ok events ↔ GivesEvents given events := by
  constructor
  · intro read
    by_cases nothing : Vacant given
    · rw [decodeEvents_vacant nothing] at read
      cases read
      exact .vacant nothing
    · obtain ⟨v, rfl, present⟩ := exists_of_not_vacant nothing
      rw [Option.getD_some] at read
      cases v with
      | array items =>
        rw [decodeEvents_array, mapM_eq_ok] at read
        exact .array (read.imp fun _ _ => EventConfig.decode_eq_ok.1)
      | _ =>
        rw [CustomerConfig.decodeEvents, if_pos present] at read
        · cases read
        · intro inner same
          cases same
  · intro gives
    cases gives with
    | vacant nothing => exact decodeEvents_vacant nothing
    | array each =>
      rw [Option.getD_some, decodeEvents_array, mapM_eq_ok]
      exact each.imp fun _ _ => EventConfig.decode_eq_ok.2

/-- What a document is decoded to. -/
theorem CustomerConfig.decode_eq_ok {document : Value} {config : CustomerConfig} :
    decode document = .ok config ↔ ∃ fields, document = .object fields ∧
      GivesConfig fields config := by
  constructor
  · intro decoded
    unfold decode at decoded
    split at decoded
    · rename_i fields
      split at decoded
      · cases decoded
      · rename_i customer owner
        cases found : decodeEvents (Value.fieldOf fields "events") with
        | error problem =>
          rw [found] at decoded
          cases decoded
        | ok events =>
          rw [found] at decoded
          cases decoded
          exact ⟨fields, rfl, owner, rfl, rfl, decodeEvents_eq_ok.1 found⟩
    · cases decoded
  · rintro ⟨fields, rfl, customer, container, version, events⟩
    obtain ⟨own, container', events', version'⟩ := config
    dsimp only at customer container version events
    rw [decode, customer]
    dsimp only
    rw [Value.fieldOf, decodeEvents_eq_ok.2 events, container, version]
    rfl

end Decoding

section Shapes

variable {given : Option Value}

theorem exists_mapped {platforms : Fields} :
    (∃ mappings : PlatformMappings, List.Forall₂
      (fun platform entry => platform = (entry.1, Value.object entry.2))
      (platforms.filter mapsPlatform) mappings) ↔
    ∀ platform ∈ platforms, platform.2 = .null ∨ ∃ mapping, platform.2 = .object mapping := by
  simp only [exists_forall₂, List.mem_filter, and_imp]
  refine forall₂_congr fun platform _ => ?_
  constructor
  · intro objects
    by_cases null : platform.2 = .null
    · exact .inl null
    · obtain ⟨entry, is⟩ := objects (by rw [mapsPlatform, Value.isNull_eq_false null]; rfl)
      exact .inr ⟨entry.2, by rw [is]⟩
  · rintro (null | ⟨mapping, is⟩) mapped
    · rw [mapsPlatform, null] at mapped
      cases mapped
    · exact ⟨(platform.1, mapping), Prod.ext rfl is⟩

theorem exists_givesMappings : (∃ mappings, GivesMappings given mappings) ↔
    Vacant given ∨ ∃ platforms, given = some (.object platforms) ∧
      ∀ platform ∈ platforms, platform.2 = .null ∨ ∃ mapping, platform.2 = .object mapping := by
  constructor
  · rintro ⟨mappings, gives⟩
    cases gives with
    | vacant nothing => exact .inl nothing
    | object each => exact .inr ⟨_, rfl, exists_mapped.1 ⟨_, each⟩⟩
  · rintro (nothing | ⟨platforms, rfl, objects⟩)
    · exact ⟨[], .vacant nothing⟩
    · obtain ⟨mappings, each⟩ := exists_mapped.2 objects
      exact ⟨mappings, .object each⟩

theorem exists_givesEvent {item : Value} :
    (∃ event, GivesEvent item event) ↔ IsEventDocument item := by
  constructor
  · rintro ⟨event, fields, rfl, named, gives⟩
    exact ⟨fields, rfl, ⟨_, named⟩, exists_givesMappings.1 ⟨_, gives⟩⟩
  · rintro ⟨fields, rfl, ⟨name, named⟩, shaped⟩
    obtain ⟨mappings, gives⟩ := exists_givesMappings.2 shaped
    exact ⟨⟨name, mappings⟩, fields, rfl, named, gives⟩

theorem exists_givesEvents : (∃ events, GivesEvents given events) ↔
    Vacant given ∨ ∃ items, given = some (.array items) ∧ ∀ item ∈ items, IsEventDocument item := by
  simp only [← exists_givesEvent, ← exists_forall₂]
  constructor
  · rintro ⟨events, gives⟩
    cases gives with
    | vacant nothing => exact .inl nothing
    | array each => exact .inr ⟨_, rfl, _, each⟩
  · rintro (nothing | ⟨items, rfl, events, each⟩)
    · exact ⟨[], .vacant nothing⟩
    · exact ⟨events, .array each⟩

theorem CustomerConfig.exists_decode {document : Value} :
    (∃ config, decode document = .ok config) ↔ IsConfigDocument document := by
  simp only [decode_eq_ok]
  constructor
  · rintro ⟨config, fields, rfl, gives⟩
    exact ⟨fields, rfl, ⟨_, gives.customer⟩, exists_givesEvents.1 ⟨_, gives.events⟩⟩
  · rintro ⟨fields, rfl, ⟨customer, owned⟩, shaped⟩
    obtain ⟨events, gives⟩ := exists_givesEvents.2 shaped
    refine ⟨⟨customer, (lookup? fields "containerId").getD customer, events,
      (lookup? fields "version").getD (.string currentVersion)⟩, fields, rfl, ?_⟩
    exact ⟨owned, rfl, rfl, gives⟩

end Shapes

section Texts

/-- What says that there is no configuration to be used: a document breaks a rule of the wire
format, or the reader refuses an integer. -/
inductive Unusable : Fault → Prop
  | config (problem : ConfigProblem) : Unusable (.config problem)
  | integer (digits : Nat) : Unusable (.json (.tooManyDigits digits))

theorem CustomerConfig.exists_ofText {text : Text} : (∃ config, ofText text = .ok config) ↔
    ∃ document, parse text = .ok document ∧ IsConfigDocument document := by
  simp only [← exists_decode, ofText]
  cases parse text with
  | ok document => cases decoded : decode document <;> simp [decodeReading, decoded, Except.mapError]
  | error problem => cases problem <;> simp [decodeReading]

/-- A text is refused for what it says unless its collections lie too deep for the reader. -/
theorem CustomerConfig.ofText_unusable {text : Text} :
    (∃ fault, ofText text = .error fault ∧ Unusable fault) ↔
      (∃ problem, parse text = .error (.malformed problem)) ∨
        (∃ digits, parse text = .error (.tooManyDigits digits)) ∨
        ∃ document, parse text = .ok document ∧ ¬IsConfigDocument document := by
  simp only [← exists_decode, ofText]
  cases parse text with
  | ok document =>
    cases decoded : decode document with
    | ok config => simp [decodeReading, decoded, Except.mapError]
    | error problem => simp [decodeReading, decoded, Except.mapError, Unusable.config]
  | error problem =>
    cases problem with
    | malformed problem => simp [decodeReading, Unusable.config]
    | tooManyDigits digits => simp [decodeReading, Unusable.integer]
    | tooDeep collection =>
      have usable : ¬Unusable (.json (.tooDeep collection)) := nofun
      simp [decodeReading, usable]

end Texts

namespace CustomerConfig

/-- What is decoded, and to what. A document is decoded exactly if it is a configuration, and then
to the one that it gives; every other document breaks a rule of the wire format. A text is accepted
exactly if a configuration is read from it. It is refused for what it says exactly if it is
malformed, if it has an integer that the reader refuses, or if what is read is no configuration. -/
theorem decode_grammar :
    (∀ document, (∃ config, decode document = .ok config) ↔ IsConfigDocument document) ∧
    (∀ document, (∃ problem, decode document = .error problem) ↔ ¬IsConfigDocument document) ∧
    (∀ document config, decode document = .ok config ↔
      ∃ fields, document = .object fields ∧ GivesConfig fields config) ∧
    (∀ text, (∃ config, ofText text = .ok config) ↔
      ∃ document, parse text = .ok document ∧ IsConfigDocument document) ∧
    ∀ text, (∃ fault, ofText text = .error fault ∧ Unusable fault) ↔
      (∃ problem, parse text = .error (.malformed problem)) ∨
        (∃ digits, parse text = .error (.tooManyDigits digits)) ∨
        ∃ document, parse text = .ok document ∧ ¬IsConfigDocument document := by
  refine ⟨fun _ => exists_decode, fun document => ?_, fun _ _ => decode_eq_ok,
    fun _ => exists_ofText, fun _ => ofText_unusable⟩
  rw [← exists_decode]
  cases decode document <;> simp

/-- A configuration without events, and a count that has no meaning in it. -/
def counted (n : Nat) : Value := .object [("count", .int n), ("customerId", .string "acme")]

theorem isConfigDocument_counted (n : Nat) : IsConfigDocument (counted n) :=
  ⟨_, rfl, ⟨.string "acme", rfl⟩, .inl nofun⟩

theorem legible_counted {limits : Limits} {n : Nat} (some : 0 < limits.nesting)
    (short : (Decimal.ofNat n).length ≤ limits.digits) :
    Legible limits limits.nesting (counted n) := by
  obtain ⟨room, nesting⟩ : ∃ fewer, limits.nesting = fewer + 1 := ⟨limits.nesting - 1, by omega⟩
  rw [nesting]
  refine .object room _ fun field member => ?_
  rcases List.mem_cons.mp member with rfl | last
  · exact .int room n (scalarText_int (by rwa [Int.natAbs_natCast]))
  · rw [List.mem_singleton.mp last]
    exact .string room "acme"

/-- A text is not refused exactly if it is not JSON or its value is no configuration. It is refused
for an integer that is too long for the reader, where the value is a configuration; and a run of
brackets that is not JSON is given up for its depth. -/
theorem ofText_misjudged :
    (parseWithin ⟨986, 4301⟩ (print .line (counted (10 ^ 4300))) = .ok (counted (10 ^ 4300)) ∧
      IsConfigDocument (counted (10 ^ 4300)) ∧
      ofText (print .line (counted (10 ^ 4300))) = .error (.json (.tooManyDigits 4301))) ∧
    ((∀ limits document, parseWithin limits (brackets 2000) ≠ .ok document) ∧
      ofText (brackets 2000) = .error (.json (.tooDeep .array))) ∧
    ¬ ∀ text, (∃ fault, ofText text = .error fault ∧ Unusable fault) ↔
      ¬ ∃ document, (∃ limits, parseWithin limits text = .ok document) ∧
        IsConfigDocument document := by
  have length := Decimal.length_ofNat_pow 4300
  have isConfig := isConfigDocument_counted (10 ^ 4300)
  generalize 10 ^ 4300 = n at length isConfig ⊢
  have reads : parseWithin ⟨986, 4301⟩ (print .line (counted n)) = .ok (counted n) :=
    parseWithin_print rfl rfl (legible_counted (by decide) (Nat.le_of_eq length))
  have long : ofText (print .line (counted n)) = .error (.json (.tooManyDigits 4301)) := by
    rw [ofText, parse, counted, parseWithin_long rfl rfl (by rw [length]; decide) (by decide),
      length]
    rfl
  have unread (limits : Limits) (document : Value) :
      parseWithin limits (brackets 2000) ≠ .ok document := by
    rw [parseWithin_brackets]
    split <;> exact nofun
  have deep : ofText (brackets 2000) = .error (.json (.tooDeep .array)) := by
    rw [ofText, parse, parseWithin_brackets, if_pos (by decide)]
    rfl
  refine ⟨⟨reads, isConfig, long⟩, ⟨unread, deep⟩, fun exactly => ?_⟩
  exact (exactly _).mp ⟨_, long, .integer 4301⟩ ⟨_, ⟨_, reads⟩, isConfig⟩

end CustomerConfig

end ConversionRelay
