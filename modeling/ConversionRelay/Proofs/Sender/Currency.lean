import ConversionRelay.Proofs.Sender.Vocabulary
/-!
The currency of a purchase whose container names none.

A generated purchase without a path for its currency has the default currency in the place of that
path, and there it is followed like any other path. Where the data layer holds nothing under that
word it leads nowhere, and the platforms are told the default currency. Where it does hold
something, they are told this instead.

Main statement: a purchase whose value resolves is prepared for Meta and for GA4 with the default
currency, unless the data layer holds something under the word for it
(`CustomerConfig.purchase_currency`). A data layer that holds another currency there makes it the
currency of the purchase (`CustomerConfig.purchase_other_currency`).
-/
namespace ConversionRelay

open OrderedMap

variable {ω : Type}

/-- The currency of a purchase whose container names none: what the data layer holds under the word
for the default currency, and that currency itself if it holds nothing there. -/
def fallbackCurrency (layer : Value) : Value :=
  let held := DataLayer.own layer defaultCurrency
  if held.isNull then .string defaultCurrency else held

/-- The fields of a purchase whose value alone has a path. -/
def pricedAt (path : Text) : Fields :=
  [("value_path", .string path), ("currency_path", .string defaultCurrency)]

section Prices

variable {layer v : Value} {path : Text}

theorem generates_pricedAt (path : Text) :
    Platform.facebook.Generates (keys (pricedAt path)) ∧
      Platform.ga4.Generates (keys (pricedAt path)) := by
  constructor
  · exact show Platform.facebook.Generates ["value_path", "currency_path"] by decide
  · exact show Platform.ga4.Generates ["value_path", "currency_path"] by decide

theorem read_defaultCurrency (layer : Value) :
    DataLayer.read layer (.string defaultCurrency) = .ok (DataLayer.own layer defaultCurrency) :=
  DataLayer.read_word layer (by decide) (by decide) (by decide)

theorem readable_pricedAt (reads : DataLayer.read layer (.string path) = .ok v) :
    ∀ field ∈ pricedAt path, DataLayer.Readable layer field.2 :=
  List.forall_mem_cons.mpr ⟨⟨v, reads⟩,
    List.forall_mem_singleton.mpr ⟨_, read_defaultCurrency layer⟩⟩

/-- Fields that tell a value without a currency of its own tell the one to fall back on. -/
theorem Priced.fallsBack {fields : Fields}
    (priced : Priced (DataLayer.resolved? layer (pricedAt path)) fields)
    (reads : DataLayer.read layer (.string path) = .ok v) (found : v.isNull = false) :
    lookup? fields "value" = some v ∧
      lookup? fields "currency" = some (fallbackCurrency layer) := by
  have value : DataLayer.resolved? layer (pricedAt path) "value_path" = some v := by
    change ((some (.string path)).map (DataLayer.valueAt layer)).filter _ = _
    rw [Option.map_some, DataLayer.valueAt, reads]
    simp [Option.filter, found]
  have currency : DataLayer.resolved? layer (pricedAt path) "currency_path" =
      (some (DataLayer.own layer defaultCurrency)).filter fun v => !v.isNull := by
    change ((some (.string defaultCurrency)).map (DataLayer.valueAt layer)).filter _ = _
    rw [Option.map_some, DataLayer.valueAt, read_defaultCurrency]
  constructor
  · rw [priced.amount, value]
  · rw [priced.currency, value, currency, fallbackCurrency]
    cases null : (DataLayer.own layer defaultCurrency).isNull <;> simp [Option.filter, null]

end Prices

/-- The only identifiers that Meta makes digests of are those of a lead, so a purchase is prepared
without fail. -/
theorem MetaSender.prepares_pricedAt (account : MetaAccount) (channel : Channel) {layer v : Value}
    {path : Text} (reads : DataLayer.read layer (.string path) = .ok v) (s : Session ω) :
    ∃ built custom,
      (Engine.prepare (sender account channel) ⟨.string "purchase", layer⟩
        (pricedAt path)).outcome s = (.ok built, s) ∧
      Value.fieldOf built "custom_data" = .object custom ∧
      Priced (DataLayer.resolved? layer (pricedAt path)) custom := by
  have tells : Tells account channel ⟨.string "purchase", layer⟩ (pricedAt path) s :=
    tells_of_generated account channel (generates_pricedAt path).1 (readable_pricedAt reads) s
  obtain ⟨user, custom, prepared, told, _⟩ | ⟨name, personal, identifier, _, found, _⟩ := tells
  · exact ⟨_, custom, prepared, rfl, told.toPriced⟩
  · have absent : ∀ name ∈ (["email_path", "phone_path"] : List Text),
        lookup? (pricedAt path) name = none := by
      intro name member
      apply lookup?_eq_none.mpr
      revert name
      exact show ∀ name ∈ (["email_path", "phone_path"] : List Text),
        name ∉ (["value_path", "currency_path"] : List Text) by decide
    rw [DataLayer.resolved?, absent name personal] at found
    cases found

theorem MeasurementSender.prepares_pricedAt (account : MeasurementAccount) (channel : Channel)
    {layer v : Value} {path : Text} (reads : DataLayer.read layer (.string path) = .ok v)
    (s : Session ω) : ∃ built params t,
      (Engine.prepare (sender account channel) ⟨.string "purchase", layer⟩
        (pricedAt path)).outcome s = (.ok built, t) ∧
      Value.fieldOf built "params" = .object params ∧
      Priced (DataLayer.resolved? layer (pricedAt path)) params := by
  have tells : Tells account channel ⟨.string "purchase", layer⟩ (pricedAt path) s :=
    tells_of_generated account channel (generates_pricedAt path).2 (readable_pricedAt reads) s
  obtain ⟨params, t, prepared, told, _⟩ := tells
  exact ⟨_, params, t, prepared, rfl, told.toPriced⟩

namespace CustomerConfig

variable {texts : OrderedMap Text Text} {path : Text}

/-- A configuration has a purchase if a path leads its value, and without a path for the currency
this purchase falls back on the default one. -/
theorem event?_purchase (customer : Value) (valued : path ≠ [])
    (leads : leadingPath? texts .amount = some path)
    (unnamed : leadingPath? texts .currency = none) :
    ∃ event, (ofEvents customer (Signals.ofPaths (leadingPath? texts)).events).event?
        (.string "purchase") = some event ∧
      lookup? event.mappings Platform.facebook.key = some (pricedAt path) ∧
      lookup? event.mappings Platform.ga4.key = some (pricedAt path) := by
  let signals := Signals.ofPaths (leadingPath? texts)
  have amount : signals.amount = .string path := congrArg Value.ofText leads
  have currency : signals.currency = .null := congrArg Value.ofText unnamed
  have present : signals.amount.isTruthy = true := by
    rw [amount]
    exact Value.isTruthy_string valued
  have priced : pricedAt path = ([("value_path", signals.amount),
      ("currency_path", signals.currency.orElse (.string defaultCurrency))] : Fields) := by
    rw [amount, currency]
    rfl
  refine ⟨signals.purchase, ?_, ?_, ?_⟩
  · rw [event?, ofEvents, Signals.find?_events, if_pos rfl, if_pos present]
  · rw [priced]
    rfl
  · rw [priced]
    rfl

/-- Where a path leads the value of purchases and none their currency, and the value resolves, a
generated purchase is prepared for Meta and for GA4 with the value and the default currency, unless
the data layer holds something under the word for that currency. Then this is what the platforms are
told. -/
theorem purchase_currency (customer : Value) (lines : List LogLine) {layer v : Value}
    (leads : leadingPath? texts .amount = some path)
    (unnamed : ∀ name ∈ keys texts, Text.lower name ∉ Signal.currency.candidates)
    (reads : DataLayer.read layer (.string path) = .ok v) (found : v ≠ .null) :
    ∃ config added event mapping,
      (generate customer (Bindings.ofTexts texts)).outcomeBehind lines =
        (.ok config, lines ++ added) ∧
      config.event? (.string "purchase") = some event ∧
      lookup? event.mappings Platform.facebook.key = some mapping ∧
      lookup? event.mappings Platform.ga4.key = some mapping ∧
      ∀ (channel : Channel) (s : Session ω),
        (∀ account, ∃ built custom,
          (Engine.prepare (MetaSender.sender account channel) ⟨.string "purchase", layer⟩
            mapping).outcome s = (.ok built, s) ∧
          Value.fieldOf built "custom_data" = .object custom ∧
          lookup? custom "value" = some v ∧
          lookup? custom "currency" = some (fallbackCurrency layer)) ∧
        ∀ account, ∃ built params t,
          (Engine.prepare (MeasurementSender.sender account channel) ⟨.string "purchase", layer⟩
            mapping).outcome s = (.ok built, t) ∧
          Value.fieldOf built "params" = .object params ∧
          lookup? params "value" = some v ∧
          lookup? params "currency" = some (fallbackCurrency layer) := by
  have valued : path ≠ [] := by
    rintro rfl
    rw [DataLayer.read_of_not_truthy (Bool.and_false _)] at reads
    exact found (Except.ok.inj reads).symm
  have shown : v.isNull = false := by
    cases v with
    | null => exact absurd rfl found
    | _ => rfl
  obtain ⟨added, generates⟩ := generate_ofTexts customer texts lines
  obtain ⟨event, isEvent, forMeta, forAnalytics⟩ :=
    event?_purchase customer valued leads (leadingPath?_eq_none.mpr unnamed)
  refine ⟨_, added, event, pricedAt path, generates, isEvent, forMeta, forAnalytics, ?_⟩
  intro channel s
  constructor
  · intro account
    obtain ⟨built, custom, prepared, is, priced⟩ :=
      MetaSender.prepares_pricedAt account channel reads s
    exact ⟨built, custom, prepared, is, priced.fallsBack reads shown⟩
  · intro account
    obtain ⟨built, params, t, prepared, is, priced⟩ :=
      MeasurementSender.prepares_pricedAt account channel reads s
    exact ⟨built, params, t, prepared, is, priced.fallsBack reads shown⟩

/-- A purchase of 150 is prepared in the default currency. -/
theorem purchase_currency_total :
    let texts : OrderedMap Text Text := [("Order Total", "cart.total")]
    let layer : Value := .object [("cart", .object [("total", .int 150)])]
    (∀ name ∈ keys texts, Text.lower name ∉ Signal.currency.candidates) ∧
      ∃ config added event mapping,
        (generate (.string "acme") (Bindings.ofTexts texts)).outcomeBehind [] =
          (.ok config, added) ∧
        config.event? (.string "purchase") = some event ∧
        lookup? event.mappings Platform.facebook.key = some mapping ∧
        lookup? event.mappings Platform.ga4.key = some mapping ∧
        ∀ (channel : Channel) (s : Session Unit),
          (∀ account, ∃ built custom,
            (Engine.prepare (MetaSender.sender account channel) ⟨.string "purchase", layer⟩
              mapping).outcome s = (.ok built, s) ∧
            Value.fieldOf built "custom_data" = .object custom ∧
            lookup? custom "value" = some (.int 150) ∧
            lookup? custom "currency" = some (.string "USD")) ∧
          ∀ account, ∃ built params t,
            (Engine.prepare (MeasurementSender.sender account channel) ⟨.string "purchase", layer⟩
              mapping).outcome s = (.ok built, t) ∧
            Value.fieldOf built "params" = .object params ∧
            lookup? params "value" = some (.int 150) ∧
            lookup? params "currency" = some (.string "USD") := by
  intro texts layer
  have leads : leadingPath? texts .amount = some (Text.ofString "cart.total") := by decide +kernel
  have unnamed : ∀ name ∈ keys texts, Text.lower name ∉ Signal.currency.candidates := by
    decide +kernel
  have reads : DataLayer.read layer (.string "cart.total") = .ok (.int 150) := rfl
  exact ⟨unnamed, purchase_currency (.string "acme") [] leads unnamed reads (by simp)⟩

/-- A data layer with a field called like the default currency makes a purchase one in euros. -/
theorem purchase_other_currency :
    let texts : OrderedMap Text Text := [("Revenue", "total")]
    let layer : Value := .object [("total", .int 5), ("USD", .string "EUR")]
    leadingPath? texts .amount = some (Text.ofString "total") ∧
      (∀ name ∈ keys texts, Text.lower name ∉ Signal.currency.candidates) ∧
      DataLayer.read layer (.string "total") = .ok (.int 5) ∧
      ∃ config added event mapping,
        (generate (.string "acme") (Bindings.ofTexts texts)).outcomeBehind [] =
          (.ok config, added) ∧
        config.event? (.string "purchase") = some event ∧
        lookup? event.mappings Platform.facebook.key = some mapping ∧
        lookup? event.mappings Platform.ga4.key = some mapping ∧
        ∀ (channel : Channel) (s : Session Unit),
          (∀ account, ∃ built custom,
            (Engine.prepare (MetaSender.sender account channel) ⟨.string "purchase", layer⟩
              mapping).outcome s = (.ok built, s) ∧
            Value.fieldOf built "custom_data" = .object custom ∧
            lookup? custom "currency" ≠ some (.string "USD") ∧
            lookup? custom "currency" = some (.string "EUR")) ∧
          ∀ account, ∃ built params t,
            (Engine.prepare (MeasurementSender.sender account channel) ⟨.string "purchase", layer⟩
              mapping).outcome s = (.ok built, t) ∧
            Value.fieldOf built "params" = .object params ∧
            lookup? params "currency" ≠ some (.string "USD") ∧
            lookup? params "currency" = some (.string "EUR") := by
  intro texts layer
  have leads : leadingPath? texts .amount = some (Text.ofString "total") := by decide +kernel
  have unnamed : ∀ name ∈ keys texts, Text.lower name ∉ Signal.currency.candidates := by
    decide +kernel
  have reads : DataLayer.read layer (.string "total") = .ok (.int 5) := rfl
  have euros {fields : Fields} (is : lookup? fields "currency" = some (.string "EUR")) :
      lookup? fields "currency" ≠ some (.string "USD") := by
    rw [is]
    intro same
    cases same
  obtain ⟨added, generates⟩ := generate_ofTexts (.string "acme") texts []
  obtain ⟨event, isEvent, forMeta, forAnalytics⟩ :=
    event?_purchase (.string "acme") (by decide) leads (leadingPath?_eq_none.mpr unnamed)
  refine ⟨leads, unnamed, reads, _, added, event, _, generates, isEvent, forMeta, forAnalytics, ?_⟩
  intro channel s
  constructor
  · intro account
    obtain ⟨built, custom, prepared, is, priced⟩ :=
      MetaSender.prepares_pricedAt account channel reads s
    have currency := (priced.fallsBack reads rfl).2
    exact ⟨built, custom, prepared, is, euros currency, currency⟩
  · intro account
    obtain ⟨built, params, t, prepared, is, priced⟩ :=
      MeasurementSender.prepares_pricedAt account channel reads s
    have currency := (priced.fallsBack reads rfl).2
    exact ⟨built, params, t, prepared, is, euros currency, currency⟩

end CustomerConfig

end ConversionRelay
