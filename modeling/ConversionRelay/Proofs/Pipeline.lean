import ConversionRelay.Container.Compilation
import ConversionRelay.Proofs.Config.Generation
import ConversionRelay.Proofs.Engine.Loading
import ConversionRelay.Proofs.Engine.LogDelivery
import ConversionRelay.Proofs.Store
/-!
From a container export to the records of an event.

An export is compiled, the configuration is saved, and events of its customer are processed with the
log sender of every platform. What is answered can be said of the export and the data layer alone:
each signal is led by one binding of the export (`pathFor?`), the path of that binding is read from
the data layer, and every platform is answered the value that was read. On the way the configuration
goes through a text, which pairs the halves of surrogate pairs in a path.

Main statement: purchases, leads and views of items are answered by the values that the leading
paths read, and refused where nothing leads to them (`process_compiled`). A path that spells a
character by two halves shows that the paths have to be taken as they are stored
(`process_unpaired_path`).
-/
namespace ConversionRelay.Pipeline

open OrderedMap Text

variable {ω : Type}

section Export

/-- The records of the variables of an export. -/
def recordsOf (document : Fields) : List Value := (Export.ofFields document).records

/-- Whether an export binds a variable whose name stands for a signal in some case. -/
def Binds (document : Fields) (signal : Signal) : Prop :=
  ∃ record ∈ recordsOf document, ∃ name path,
    Bindings.ofRecord? record = some (.string name, .string path) ∧ lower name ∈ signal.candidates

/-- The path that leads a signal in an export: of the names that stand for the signal the first that
is bound, of several variables with that name the one bound first, and of several records with the
name of that variable the last. -/
def pathFor? (document : Fields) (signal : Signal) : Option Text :=
  leadingPath? (boundTexts (recordsOf document)) signal

/-- The path that leads a signal, as it is stored. -/
def storedPath? (document : Fields) (signal : Signal) : Option Text :=
  (pathFor? document signal).map paired

theorem pathFor?_eq_none {document : Fields} {signal : Signal} :
    pathFor? document signal = none ↔ ¬ Binds document signal := by
  rw [pathFor?, leadingPath?_eq_none]
  constructor
  · rintro absent ⟨record, member, name, path, binds, stands⟩
    refine absent name (mem_keys_ofPairs.mpr ?_) stands
    have pair := List.mem_filterMap.mpr ⟨record, member, textBinding?_eq_some.mpr binds⟩
    exact List.mem_map_of_mem pair
  · intro absent name bound stands
    obtain ⟨entry, pair, rfl⟩ := List.mem_map.mp (mem_keys_ofPairs.mp bound)
    obtain ⟨record, member, binds⟩ := List.mem_filterMap.mp pair
    exact absent ⟨record, member, entry.1, entry.2, textBinding?_eq_some.mp binds, stands⟩

/-- A path that leads a signal is not empty. -/
theorem ne_nil_of_storedPath? {document : Fields} {signal : Signal} {path : Text}
    (stored : storedPath? document signal = some path) : path ≠ [] := by
  obtain ⟨original, leads, rfl⟩ := Option.map_eq_some_iff.mp stored
  obtain ⟨name, bound, _⟩ := mem_of_leadingPath? leads
  exact fun empty => path_ne_nil_of_mem_boundTexts bound (paired_eq_nil.mp empty)

theorem storedPath?_ne_nil (document : Fields) (signal : Signal) :
    storedPath? document signal ≠ some [] :=
  fun empty => ne_nil_of_storedPath? empty rfl

theorem isTruthy_storedPath? (document : Fields) (signal : Signal) :
    (Value.ofText (storedPath? document signal)).isTruthy = (pathFor? document signal).isSome := by
  rw [Value.isTruthy_ofText (storedPath?_ne_nil document signal), storedPath?, Option.isSome_map]

/-- Compiling an export that binds texts to texts yields the configuration of the leading paths. -/
theorem compile_run (files : FileTree) {document : Fields} (customer : Text)
    (texts : BindsTexts (recordsOf document)) : ∃ compilation lines,
      (Compilation.ofSource files (.document (.object document)) (.string customer)).outcome =
        (.ok compilation, lines) ∧
      compilation.config = .ofEvents (.string customer)
        (Signals.ofPaths (pathFor? document)).events := by
  let referenced := Reference.variablesOfAll ((Export.ofFields document).tags.map .object)
  let bindings := Bindings.ofTexts (boundTexts (recordsOf document))
  let lines : List LogLine := [
    ⟨.info, .compilation,
      "Extracted " ++ Decimal.ofNat referenced.length ++ " unique variables from tags"⟩,
    ⟨.info, .compilation,
      "Extracted " ++ Decimal.ofNat bindings.length ++ " macro definitions with dataLayer paths"⟩]
  obtain ⟨added, generates⟩ := CustomerConfig.generate_ofTexts (.string customer)
    (boundTexts (recordsOf document)) lines
  have binds : Bindings.ofRecords (Export.ofFields document).records = .ok bindings :=
    Bindings.ofRecords_of_bindsTexts texts
  refine ⟨⟨_, (Export.ofFields document).format, referenced, bindings,
    Coverage.ofVariables referenced bindings⟩, lines ++ added, ?_, rfl⟩
  change Logged.outcomeBehind _ [] = _
  rw [Compilation.ofSource, Export.load, pure_bind, Compilation.ofExport, binds]
  rw [Logged.outcomeBehind_bind_ok (Logged.outcomeBehind_ofExcept _ _),
    Logged.outcomeBehind_bind_ok (Logged.outcomeBehind_write _ _ _ _),
    Logged.outcomeBehind_bind_ok (Logged.outcomeBehind_write _ _ _ _)]
  exact Logged.outcomeBehind_bind_ok generates

/-- The configuration that a compiled one is read back as. -/
def storedConfig (document : Fields) (customer : Text) : CustomerConfig :=
  .ofEvents (.string (paired customer)) (Signals.ofPaths (storedPath? document)).events

end Export

section Reading

/-- What the leading path of a signal reads from a data layer; null if no path leads the signal. -/
def valueOf (document : Fields) (layer : Value) (signal : Signal) : Value :=
  DataLayer.valueAt layer (.ofText (storedPath? document signal))

/-- What is read for the currency of a purchase: where no path leads to it, the default currency
serves as a path. -/
def currencyOf (document : Fields) (layer : Value) : Value :=
  DataLayer.valueAt layer (.string ((storedPath? document .currency).getD defaultCurrency))

/-- Whether every leading path of an export can be followed in a data layer. -/
def Followable (document : Fields) (layer : Value) : Prop :=
  ∀ signal path, storedPath? document signal = some path →
    DataLayer.Readable layer (.string path)

theorem readable_of_not_truthy (layer : Value) {path : Value} (absent : path.isTruthy = false) :
    DataLayer.Readable layer path :=
  ⟨.null, DataLayer.read_of_not_truthy (by rw [absent, Bool.and_false])⟩

theorem valueAt_of_not_truthy (layer : Value) {path : Value} (absent : path.isTruthy = false) :
    DataLayer.valueAt layer path = .null := by
  rw [DataLayer.valueAt, DataLayer.read_of_not_truthy (by rw [absent, Bool.and_false])]

/-- The default currency can be followed everywhere. -/
theorem readable_defaultCurrency (layer : Value) :
    DataLayer.Readable layer (.string defaultCurrency) :=
  ⟨_, DataLayer.read_word layer (by decide) (by decide) (by decide)⟩

variable {document : Fields} {layer : Value}

theorem readable_ofText (followable : Followable document layer) (signal : Signal) :
    DataLayer.Readable layer (.ofText (storedPath? document signal)) := by
  cases stored : storedPath? document signal with
  | none => exact readable_of_not_truthy layer rfl
  | some path => exact followable signal path stored

/-- A signal's path, or a default where no path leads the signal. -/
theorem orElse_storedPath? (document : Fields) (signal : Signal) (other : Text) :
    (Value.ofText (storedPath? document signal)).orElse (.string other) =
      .string ((storedPath? document signal).getD other) :=
  Value.orElse_ofText (storedPath?_ne_nil document signal) other

/-- An empty path reads nothing, as no path does. -/
theorem valueAt_orElse_empty (layer : Value) (document : Fields) (signal : Signal) :
    DataLayer.valueAt layer ((Value.ofText (storedPath? document signal)).orElse (.string "")) =
      valueOf document layer signal := by
  rw [orElse_storedPath?, valueOf]
  cases storedPath? document signal with
  | none => rw [valueAt_of_not_truthy layer rfl, valueAt_of_not_truthy layer rfl]
  | some path => rfl

theorem readable_orElse_empty (followable : Followable document layer) (signal : Signal) :
    DataLayer.Readable layer
      ((Value.ofText (storedPath? document signal)).orElse (.string "")) := by
  rw [orElse_storedPath?]
  cases stored : storedPath? document signal with
  | none => exact readable_of_not_truthy layer rfl
  | some path => exact followable signal path stored

theorem readable_currency (followable : Followable document layer) :
    DataLayer.Readable layer
      (.string ((storedPath? document .currency).getD defaultCurrency)) := by
  cases stored : storedPath? document .currency with
  | none => exact readable_defaultCurrency layer
  | some path => exact followable .currency path stored

end Reading

section Answers

/-- What is answered to a purchase. -/
def purchaseRecords (time : Instant) (amount currency : Value) : OrderedMap Text Fields :=
  let priced := present "value_path" amount ++ present "currency_path" currency
  [ ("facebook", loggedRecord .facebook time (.string "purchase") priced),
    ("ga4", loggedRecord .ga4 time (.string "purchase") priced),
    ("googleAds",
      loggedRecord .googleAds time (.string "purchase") (present "conversion_value" amount))]

/-- What is answered to a lead. -/
def leadRecords (time : Instant) (email phone : Value) : OrderedMap Text Fields :=
  let contact := present "email_path" email ++ present "phone_path" phone
  [ ("facebook", loggedRecord .facebook time (.string "lead") contact),
    ("ga4", loggedRecord .ga4 time (.string "lead") contact)]

/-- What is answered to a view of an item that has an identifier. -/
def viewRecords (time : Instant) (productId productName : Value) : OrderedMap Text Fields :=
  [ ("facebook",
      loggedRecord .facebook time (.string "view_item") (present "item_id_path" productId)),
    ("ga4", loggedRecord .ga4 time (.string "view_item")
      (present "item_id_path" productId ++ present "item_name_path" productName))]

/-- An engine with the log sender of every platform and without a hook. -/
def logEngine (store : ConfigStore ω) (log : Option (EventLog ω)) : Engine ω :=
  { store, log, senders := SenderKinds.standard.senders, hook := none }

theorem served (store : ConfigStore ω) (log : Option (EventLog ω)) (platform : Platform) :
    lookup? (logEngine store log).senders platform.key = some (LogSender.sender platform) := by
  cases platform <;> rfl

variable {document : Fields} {customer : Text} {layer : Value} {saved given : Session ω}

/-- The event of a name in a stored configuration. -/
theorem event?_storedConfig (document : Fields) (customer name : Text) :
    (storedConfig document customer).event? (.string name) =
      let signals := Signals.ofPaths (storedPath? document)
      let leads := fun signal => (pathFor? document signal).isSome
      if name = "purchase" then if leads .amount then some signals.purchase else none
      else if name = "lead" then
        if leads .email || leads .phone then some signals.lead else none
      else if name = "view_item" then
        if leads .productId || leads .productName then some signals.viewItem else none
      else none := by
  rw [CustomerConfig.event?, storedConfig, CustomerConfig.ofEvents, Signals.find?_events]
  simp only [Signals.ofPaths, isTruthy_storedPath?]

/-- A mapping whose paths can be followed and whose names are plain. -/
structure Fit (layer : Value) (mapping : Fields) : Prop where
  readable : ∀ field ∈ mapping, DataLayer.Readable layer field.2
  plain : PlainNames (keys mapping)

/-- An event that a loaded configuration maps to platforms with log senders is answered by their
records. -/
theorem process_mapped {name : Text} {config : CustomerConfig} {found : EventConfig}
    {plan : List (Platform × Fields)} (store : ConfigStore ω) (log : Option (EventLog ω))
    (loads : ((logEngine store log).loadConfig (.string customer)).outcome saved =
      (.ok (some config), given))
    (mapped : config.event? (.string name) = some found)
    (planned : found.mappings = plan.map fun entry => (entry.1.key, entry.2))
    (fit : ∀ entry ∈ plan, Fit layer entry.2) :
    (((logEngine store log).process (.string customer) ⟨.string name, layer⟩).outcome saved).1 =
      .ok (plan.map fun entry => (entry.1.key,
        loggedRecord entry.1 given.now (.string name) (DataLayer.valuesAt layer entry.2))) := by
  rw [Engine.process_of_event loads mapped]
  exact Engine.deliver_logged rfl (served store log) planned
    (fun entry member => (fit entry member).readable)
    (fun entry member => (fit entry member).plain) given

/-- A refusal of an event that the configuration of a customer does not mention. -/
def refusal (customer name : Text) : Except Fault (OrderedMap Text Fields) :=
  .error (.tracking (.eventNotConfigured (.string customer) (.string name)))

theorem process_unmapped {name : Text} {config : CustomerConfig} (store : ConfigStore ω)
    (log : Option (EventLog ω))
    (loads : ((logEngine store log).loadConfig (.string customer)).outcome saved =
      (.ok (some config), given))
    (unmapped : config.event? (.string name) = none) :
    (((logEngine store log).process (.string customer) ⟨.string name, layer⟩).outcome saved).1 =
      refusal customer name := by
  rw [Engine.process_of_no_event loads unmapped]
  rfl

/-- A purchase is answered by the value that the leading path reads, or refused. -/
theorem process_purchase (store : ConfigStore ω) (log : Option (EventLog ω))
    (followable : Followable document layer)
    (loads : ((logEngine store log).loadConfig (.string customer)).outcome saved =
      (.ok (some (storedConfig document customer)), given)) :
    (((logEngine store log).process (.string customer) ⟨.string "purchase", layer⟩).outcome
      saved).1 =
        if (pathFor? document .amount).isSome then .ok (purchaseRecords given.now
          (valueOf document layer .amount) (currencyOf document layer))
        else refusal customer "purchase" := by
  have mapped := event?_storedConfig document customer "purchase"
  dsimp only at mapped
  rw [if_pos rfl] at mapped
  cases leads : (pathFor? document .amount).isSome with
  | false =>
    simp only [leads, Bool.false_eq_true, if_false] at mapped ⊢
    exact process_unmapped store log loads mapped
  | true =>
    simp only [leads, if_true] at mapped ⊢
    -- Two platforms share a mapping; the third takes the amount alone, under a name of its own.
    let priced : Fields := [
      ("value_path", .ofText (storedPath? document .amount)),
      ("currency_path", .string ((storedPath? document .currency).getD defaultCurrency))]
    let converted : Fields := [("conversion_value", .ofText (storedPath? document .amount))]
    have planned : (Signals.ofPaths (storedPath? document)).purchase.mappings =
        [(Platform.facebook, priced), (.ga4, priced), (.googleAds, converted)].map
          fun entry => (entry.1.key, entry.2) := by
      simp only [Signals.purchase, Signals.ofPaths, orElse_storedPath?]
      rfl
    have amount := readable_ofText followable .amount
    have priced' : Fit layer priced :=
      ⟨List.forall_mem_cons.mpr
        ⟨amount, List.forall_mem_singleton.mpr (readable_currency followable)⟩,
        show PlainNames ["value_path", "currency_path"] by decide⟩
    have converted' : Fit layer converted :=
      ⟨List.forall_mem_singleton.mpr amount, show PlainNames ["conversion_value"] by decide⟩
    rw [process_mapped store log loads mapped planned]
    · simp only [List.map_cons, List.map_nil, priced, converted, DataLayer.valuesAt_cons,
        DataLayer.valuesAt_nil, List.append_nil]
      rfl
    · exact List.forall_mem_cons.mpr ⟨priced', List.forall_mem_cons.mpr ⟨priced',
        List.forall_mem_singleton.mpr converted'⟩⟩

/-- A lead is answered by the email and the phone that the leading paths read, or refused. -/
theorem process_lead (store : ConfigStore ω) (log : Option (EventLog ω))
    (followable : Followable document layer)
    (loads : ((logEngine store log).loadConfig (.string customer)).outcome saved =
      (.ok (some (storedConfig document customer)), given)) :
    (((logEngine store log).process (.string customer) ⟨.string "lead", layer⟩).outcome saved).1 =
      if (pathFor? document .email).isSome || (pathFor? document .phone).isSome then
        .ok (leadRecords given.now (valueOf document layer .email) (valueOf document layer .phone))
      else refusal customer "lead" := by
  have mapped := event?_storedConfig document customer "lead"
  dsimp only at mapped
  rw [if_neg (by decide), if_pos rfl] at mapped
  cases leads : (pathFor? document .email).isSome || (pathFor? document .phone).isSome with
  | false =>
    simp only [leads, Bool.false_eq_true, if_false] at mapped ⊢
    exact process_unmapped store log loads mapped
  | true =>
    simp only [leads, if_true] at mapped ⊢
    let contact : Fields := [
      ("email_path", (Value.ofText (storedPath? document .email)).orElse (.string "")),
      ("phone_path", (Value.ofText (storedPath? document .phone)).orElse (.string ""))]
    have planned : (Signals.ofPaths (storedPath? document)).lead.mappings =
        [(Platform.facebook, contact), (.ga4, contact)].map fun entry =>
          (entry.1.key, entry.2) := rfl
    have contact' : Fit layer contact :=
      ⟨List.forall_mem_cons.mpr ⟨readable_orElse_empty followable .email,
        List.forall_mem_singleton.mpr (readable_orElse_empty followable .phone)⟩,
        show PlainNames ["email_path", "phone_path"] by decide⟩
    rw [process_mapped store log loads mapped planned]
    · simp only [List.map_cons, List.map_nil, contact, DataLayer.valuesAt_cons,
        DataLayer.valuesAt_nil, List.append_nil, valueAt_orElse_empty]
      rfl
    · exact List.forall_mem_cons.mpr ⟨contact', List.forall_mem_singleton.mpr contact'⟩

/-- The mapping of the identifier of an item. -/
def itemMapping (document : Fields) : Fields :=
  [("item_id_path", .ofText (storedPath? document .productId))]

/-- The mapping of the name of an item, if a path leads to it. -/
def nameMapping (document : Fields) : Fields :=
  if (pathFor? document .productName).isSome then
    [("item_name_path", .ofText (storedPath? document .productName))]
  else []

theorem mappings_viewItem (document : Fields) :
    (Signals.ofPaths (storedPath? document)).viewItem.mappings =
      (if (pathFor? document .productId).isSome then
        [(Platform.facebook, itemMapping document),
          (.ga4, itemMapping document ++ nameMapping document)]
      else []).map fun entry => (entry.1.key, entry.2) := by
  simp only [Signals.viewItem, Signals.ofPaths, isTruthy_storedPath?]
  cases (pathFor? document .productId).isSome <;> rfl

theorem fit_item (followable : Followable document layer) : Fit layer (itemMapping document) :=
  ⟨List.forall_mem_singleton.mpr (readable_ofText followable .productId),
    show PlainNames ["item_id_path"] by decide⟩

theorem fit_namedItem (followable : Followable document layer) :
    Fit layer (itemMapping document ++ nameMapping document) := by
  have item := fit_item followable
  unfold nameMapping
  cases (pathFor? document .productName).isSome with
  | false => exact item
  | true =>
    refine ⟨List.forall_mem_append.mpr ⟨item.readable, ?_⟩,
      show PlainNames ["item_id_path", "item_name_path"] by decide⟩
    exact List.forall_mem_singleton.mpr (readable_ofText followable .productName)

/-- Without a leading path the name of an item reads as null, as it does without a mapping. -/
theorem valuesAt_nameMapping (document : Fields) (layer : Value) :
    DataLayer.valuesAt layer (nameMapping document) =
      present "item_name_path" (valueOf document layer .productName) := by
  unfold nameMapping valueOf storedPath?
  cases pathFor? document .productName with
  | none =>
    rw [valueAt_of_not_truthy layer rfl]
    rfl
  | some path => exact List.append_nil _

theorem valuesAt_itemMapping (document : Fields) (layer : Value) :
    DataLayer.valuesAt layer (itemMapping document) =
      present "item_id_path" (valueOf document layer .productId) := List.append_nil _

/-- A view of an item is answered by what the leading paths of the product read: by nothing where
only its name is bound, and refused where nothing is. -/
theorem process_viewItem (store : ConfigStore ω) (log : Option (EventLog ω))
    (followable : Followable document layer)
    (loads : ((logEngine store log).loadConfig (.string customer)).outcome saved =
      (.ok (some (storedConfig document customer)), given)) :
    (((logEngine store log).process (.string customer) ⟨.string "view_item", layer⟩).outcome
      saved).1 =
        if (pathFor? document .productId).isSome then .ok (viewRecords given.now
          (valueOf document layer .productId) (valueOf document layer .productName))
        else if (pathFor? document .productName).isSome then .ok []
        else refusal customer "view_item" := by
  have mapped := event?_storedConfig document customer "view_item"
  dsimp only at mapped
  rw [if_neg (by decide), if_neg (by decide), if_pos rfl] at mapped
  have mappings := mappings_viewItem document
  cases identified : (pathFor? document .productId).isSome with
  | false =>
    simp only [identified, Bool.false_or, Bool.false_eq_true, if_false] at mapped mappings ⊢
    cases named : (pathFor? document .productName).isSome with
    | false =>
      simp only [named, Bool.false_eq_true, if_false] at mapped ⊢
      exact process_unmapped store log loads mapped
    | true =>
      -- The event is known by the name of the item, but it is mapped to no platform.
      simp only [named, if_true] at mapped ⊢
      have nobody : ∀ entry ∈ ([] : List (Platform × Fields)), Fit layer entry.2 :=
        List.forall_mem_nil _
      exact process_mapped store log loads mapped mappings nobody
  | true =>
    simp only [identified, Bool.true_or, if_true] at mapped mappings ⊢
    have fit := fit_namedItem followable
    rw [process_mapped store log loads mapped mappings]
    · simp only [List.map_cons, List.map_nil, DataLayer.valuesAt_append, valuesAt_itemMapping,
        valuesAt_nameMapping]
      rfl
    · exact List.forall_mem_cons.mpr ⟨fit_item followable, List.forall_mem_singleton.mpr fit⟩

end Answers

section Runs

variable {document : Fields} {layer : Value} {s : Session ω}

/-- The configuration of an export that was saved is loaded with its paths as they are stored. -/
theorem load_saved (store : ConfigStore ω) (log : Option (EventLog ω)) (keeps : store.Keeps s)
    (document : Fields) (customer : Text) : ∃ saved given,
      (store.save (.ofEvents (.string customer)
        (Signals.ofPaths (pathFor? document)).events)).outcome s = (.ok (), saved) ∧
      ((logEngine store log).loadConfig (.string customer)).outcome saved =
        (.ok (some (storedConfig document customer)), given) := by
  obtain ⟨saved, given, saves, gives⟩ := keeps customer
    (.ofEvents (.string customer) (Signals.ofPaths (pathFor? document)).events) rfl
  have reads := CustomerConfig.ofText_generated customer (pathFor? document)
  exact ⟨saved, given, saves, Engine.loadConfig_run gives reads⟩

/-- What an event is answered after a configuration has been saved. -/
def answerTo (store : ConfigStore ω) (log : Option (EventLog ω)) (s : Session ω)
    (config : CustomerConfig) (customer : Text) (layer : Value) (event : Text) :
    Except Fault (OrderedMap Text Fields) :=
  ((do
    store.save config
    (logEngine store log).process (.string customer) ⟨.string event, layer⟩ :
      Run ω (OrderedMap Text Fields)).outcome s).1

/-- Purchases, leads and views of items are answered by the values that the leading paths of an
export read, under the names that each platform has for them, and refused where nothing leads to
them; any other event is refused. A path is taken as it is stored, which changes it only where a
high half of a surrogate pair stands right before a low one. -/
theorem process_compiled (files : FileTree) (customer : Text)
    (texts : BindsTexts (recordsOf document)) (followable : Followable document layer)
    (store : ConfigStore ω) (log : Option (EventLog ω)) (keeps : store.Keeps s) :
    ∃ compilation lines time,
      (Compilation.ofSource files (.document (.object document)) (.string customer)).outcome =
        (.ok compilation, lines) ∧
      let answer := answerTo store log s compilation.config customer layer
      let leads := fun signal => (pathFor? document signal).isSome
      let value := valueOf document layer
      (∀ signal, leads signal = true ↔ Binds document signal) ∧
      (∀ signal path, pathFor? document signal = some path →
        (∀ before c d after, path = before ++ c :: d :: after → (c.isHigh && d.isLow) = false) →
        storedPath? document signal = some path) ∧
      (answer "purchase" =
        if leads .amount then
          .ok (purchaseRecords time (value .amount) (currencyOf document layer))
        else refusal customer "purchase") ∧
      (answer "lead" =
        if leads .email || leads .phone then .ok (leadRecords time (value .email) (value .phone))
        else refusal customer "lead") ∧
      (answer "view_item" =
        if leads .productId then .ok (viewRecords time (value .productId) (value .productName))
        else if leads .productName then .ok []
        else refusal customer "view_item") ∧
      ∀ event : Text, event ≠ "purchase" → event ≠ "lead" → event ≠ "view_item" →
        answer event = refusal customer event := by
  obtain ⟨compilation, lines, compiles, config⟩ := compile_run files customer texts
  obtain ⟨saved, given, saves, loads⟩ := load_saved store log keeps document customer
  have answers (event : Text) : answerTo store log s compilation.config customer layer event =
      (((logEngine store log).process (.string customer) ⟨.string event, layer⟩).outcome
        saved).1 := by
    rw [answerTo, config, Run.outcome_bind_ok saves]
  refine ⟨compilation, lines, given.now, compiles, fun signal => ?_,
    fun signal path leads apart => ?_, ?_, ?_, ?_, fun event notPurchase notLead notView => ?_⟩
  · rw [Option.isSome_iff_ne_none, ne_eq, pathFor?_eq_none, not_not]
  · rw [storedPath?, leads, Option.map_some, paired_of_apart apart]
  · rw [answers]
    exact process_purchase store log followable loads
  · rw [answers]
    exact process_lead store log followable loads
  · rw [answers]
    exact process_viewItem store log followable loads
  · have unmapped := event?_storedConfig document customer event
    dsimp only at unmapped
    rw [if_neg notPurchase, if_neg notLead, if_neg notView] at unmapped
    rw [answers]
    exact process_unmapped store log loads unmapped

/-- An export with one variable, which binds the amount of purchases. -/
def revenueDocument (path : Text) : Fields :=
  [("macro", .array [.object [
    ("name", .string "Revenue"),
    ("parameter", .array [.object [
      ("key", .string Bindings.pathParameter), ("value", .string path)]])]])]

section Revenue

variable {path : Text}

theorem recordsOf_revenueDocument (nonempty : path ≠ []) :
    ∃ record, recordsOf (revenueDocument path) = [record] ∧
      Bindings.ofRecord? record = some (.string "Revenue", .string path) := by
  refine ⟨_, rfl, ?_⟩
  have given : (Value.string path).isTruthy = true := by
    simpa [Value.isTruthy] using nonempty
  let key : Value := .string Bindings.pathParameter
  have isKey : key.equal key = true := by rw [equal_string, beq_self_eq_true]
  have binds : Bindings.pathOfParameter? (.object [
      ("key", .string Bindings.pathParameter), ("value", .string path)]) = some (.string path) := by
    change (if key.equal key && (Value.string path).isTruthy then some (Value.string path)
      else none) = _
    rw [isKey, given]
    rfl
  change (List.findSome? Bindings.pathOfParameter? [_]).map _ = _
  rw [List.findSome?_cons, binds]
  rfl

theorem bindsTexts_revenueDocument (nonempty : path ≠ []) :
    BindsTexts (recordsOf (revenueDocument path)) := by
  obtain ⟨record, only, binds⟩ := recordsOf_revenueDocument nonempty
  intro other member name target given
  rw [only] at member
  rw [List.mem_singleton.mp member, binds] at given
  cases given
  exact ⟨⟨_, rfl⟩, ⟨_, rfl⟩⟩

/-- The path of the variable leads the amount, and no path leads another signal. -/
theorem pathFor?_revenueDocument (nonempty : path ≠ []) (signal : Signal) :
    pathFor? (revenueDocument path) signal = if signal = .amount then some path else none := by
  obtain ⟨record, only, binds⟩ := recordsOf_revenueDocument nonempty
  have bound : boundTexts (recordsOf (revenueDocument path)) =
      ([("Revenue", path)] : OrderedMap Text Text) := by
    rw [only, boundTexts, List.filterMap_cons, textBinding?_eq_some.mpr binds]
    rfl
  have named : lower "Revenue" = "revenue" := by decide +kernel
  rw [pathFor?, bound, leadingPath?]
  cases signal <;>
    simp only [Signal.candidates, List.findSome?_cons, List.find?_cons, named] <;> rfl

theorem storedPath?_revenueDocument (nonempty : path ≠ []) (signal : Signal) :
    storedPath? (revenueDocument path) signal =
      if signal = .amount then some (paired path) else none := by
  rw [storedPath?, pathFor?_revenueDocument nonempty]
  split <;> rfl

theorem followable_revenueDocument (nonempty : path ≠ [])
    (readable : DataLayer.Readable layer (.string (paired path))) :
    Followable (revenueDocument path) layer := by
  intro signal other leads
  rw [storedPath?_revenueDocument nonempty] at leads
  split at leads
  · cases leads
    exact readable
  · cases leads

theorem valueOf_revenueDocument (nonempty : path ≠ []) (layer : Value) :
    valueOf (revenueDocument path) layer .amount =
      DataLayer.valueAt layer (.string (paired path)) := by
  rw [valueOf, storedPath?_revenueDocument nonempty, if_pos rfl, Value.ofText]

theorem currencyOf_revenueDocument (nonempty : path ≠ []) (layer : Value) :
    currencyOf (revenueDocument path) layer =
      DataLayer.valueAt layer (.string defaultCurrency) := by
  rw [currencyOf, storedPath?_revenueDocument nonempty, if_neg (by decide), Option.getD_none]

end Revenue

/-- A purchase of 150 is answered to an export that binds its total. -/
theorem process_compiled_total :
    let document := revenueDocument "total"
    let layer : Value := .object [("total", .int 150)]
    BindsTexts (recordsOf document) ∧ Followable document layer ∧
      ConfigStore.memory.Keeps (.initial ()) ∧
      ∃ compilation lines time,
        (Compilation.ofSource .empty (.document (.object document)) (.string "acme")).outcome =
          (.ok compilation, lines) ∧
        answerTo .memory none (.initial ()) compilation.config "acme" layer "purchase" =
          .ok (purchaseRecords time (.int 150) .null) := by
  intro document layer
  have nonempty : Text.ofString "total" ≠ [] := by decide
  have texts := bindsTexts_revenueDocument nonempty
  have followable : Followable document layer :=
    followable_revenueDocument nonempty ⟨.int 150, rfl⟩
  have keeps := ConfigStore.memory_keeps (Session.initial ())
  have amount : valueOf document layer .amount = .int 150 := valueOf_revenueDocument nonempty layer
  have currency : currencyOf document layer = .null := currencyOf_revenueDocument nonempty layer
  have leads : (pathFor? document .amount).isSome = true := by
    rw [pathFor?_revenueDocument nonempty]
    rfl
  obtain ⟨compilation, lines, time, compiles, _, _, purchase, _⟩ :=
    process_compiled .empty "acme" texts followable .memory none keeps
  rw [if_pos leads, amount, currency] at purchase
  exact ⟨texts, followable, keeps, compilation, lines, time, compiles, purchase⟩

theorem present_injective {name : Text} {v w : Value} (same : present name v = present name w) :
    v = w := by
  unfold present at same
  cases v <;> cases w <;> simp_all [Value.isNull]

/-- Purchases of different amounts are answered differently. -/
theorem amount_of_purchaseRecords_eq {time time' : Instant}
    {amount amount' currency currency' : Value}
    (same : purchaseRecords time amount currency = purchaseRecords time' amount' currency') :
    amount = amount' := by
  have payloads := congrArg (fun records : OrderedMap Text Fields =>
    lookup? ((lookup? records (Text.ofString "googleAds")).getD []) "payload") same
  exact present_injective (Value.object.inj (Option.some.inj payloads))

/-- The halves of a surrogate pair lead nowhere in a data layer that names the character which they
make up, and yet a purchase is answered by the value of that character. -/
theorem process_unpaired_path :
    let path : Text := [.surrogate 61, .surrogate 1536]
    let document := revenueDocument path
    let layer : Value := .object [("😀", .int 5)]
    BindsTexts (recordsOf document) ∧ pathFor? document .amount = some path ∧
      DataLayer.read layer (.string path) = .ok .null ∧ ∃ compilation lines time,
        (Compilation.ofSource .empty (.document (.object document)) (.string "acme")).outcome =
          (.ok compilation, lines) ∧
        answerTo .memory none (.initial ()) compilation.config "acme" layer "purchase" =
          .ok (purchaseRecords time (.int 5) .null) ∧
        ∀ time currency,
          answerTo .memory none (.initial ()) compilation.config "acme" layer "purchase" ≠
            .ok (purchaseRecords time (DataLayer.valueAt layer (.string path)) currency) := by
  intro path document layer
  have nonempty : path ≠ [] := by decide
  have texts := bindsTexts_revenueDocument nonempty
  have leads : pathFor? document .amount = some path := pathFor?_revenueDocument nonempty .amount
  have nothing : DataLayer.read layer (.string path) = .ok .null := rfl
  have pair : paired path = Text.ofString "😀" := by decide +kernel
  have followable : Followable document layer :=
    followable_revenueDocument nonempty ⟨.int 5, by rw [pair]; rfl⟩
  have amount : valueOf document layer .amount = .int 5 := by
    rw [valueOf_revenueDocument nonempty, pair]
    rfl
  have currency : currencyOf document layer = .null := currencyOf_revenueDocument nonempty layer
  obtain ⟨compilation, lines, compiles, config⟩ := compile_run .empty "acme" texts
  obtain ⟨saved, given, saves, loads⟩ :=
    load_saved .memory none (ConfigStore.memory_keeps (Session.initial ())) document "acme"
  have answers : answerTo .memory none (.initial ()) compilation.config "acme" layer "purchase" =
      .ok (purchaseRecords given.now (.int 5) .null) := by
    rw [answerTo, config, Run.outcome_bind_ok saves, process_purchase .memory none followable loads,
      leads, Option.isSome_some, if_pos rfl, amount, currency]
  refine ⟨texts, leads, nothing, compilation, lines, given.now, compiles, answers, ?_⟩
  intro time other same
  rw [answers, DataLayer.valueAt, nothing] at same
  cases amount_of_purchaseRecords_eq (Except.ok.inj same)

end Runs

end ConversionRelay.Pipeline
