import ConversionRelay.Config.Generation
import ConversionRelay.Proofs.Config.Stored
import ConversionRelay.Proofs.Container.Binding
import ConversionRelay.Proofs.Run
import ConversionRelay.Proofs.Text.Case
/-!
The configuration that bindings of texts to texts give rise to.

Every signal is led by the path of one binding: of the candidates of the signal the first that is
the name of a bound variable in some case, and of the variables with that name the one bound first
(`leadingPath?`). A generated configuration is legible, and storing it does no more than pair the
paths of the signals.

Main statements: generating succeeds with the events of the leading paths
(`CustomerConfig.generate_ofTexts`), no path leads a signal just where no bound variable has a name
that stands for it (`leadingPath?_eq_none`), and a stored configuration is read as the one of the
paired paths (`CustomerConfig.ofText_generated`).
-/
namespace ConversionRelay

open OrderedMap Text

section Leading

/-- The path that leads a signal among bindings of texts to texts. -/
def leadingPath? (texts : OrderedMap Text Text) (signal : Signal) : Option Text :=
  signal.candidates.findSome? fun candidate =>
    (texts.find? fun entry => lower entry.1 == candidate).map Prod.snd

/-- The names that stand for a signal are in lower case. -/
theorem lower_candidate (signal : Signal) : ∀ candidate ∈ signal.candidates,
    lower candidate = candidate := by
  cases signal <;> decide +kernel

namespace Bindings

theorem pathOf?_ofTexts (wanted : Text) (texts : OrderedMap Text Text) :
    pathOf? wanted (ofTexts texts) =
      .ok ((texts.find? fun entry => lower entry.1 == wanted).map fun entry =>
        .string entry.2) := by
  induction texts with
  | nil => rfl
  | cons entry rest ih =>
    change (if lower entry.1 == wanted then .ok (some (.string entry.2))
      else pathOf? wanted (ofTexts rest)) = _
    rw [ih, List.find?_cons]
    cases lower entry.1 == wanted <;> rfl

theorem firstPathOf?_ofTexts (texts : OrderedMap Text Text) {candidates : List Text}
    (lowered : ∀ candidate ∈ candidates, lower candidate = candidate) :
    firstPathOf? (ofTexts texts) candidates =
      .ok ((candidates.findSome? fun candidate =>
        (texts.find? fun entry => lower entry.1 == candidate).map Prod.snd).map .string) := by
  induction candidates with
  | nil => rfl
  | cons candidate others ih =>
    rw [firstPathOf?, lowered candidate List.mem_cons_self, pathOf?_ofTexts, List.findSome?_cons]
    cases texts.find? fun entry => lower entry.1 == candidate with
    | some entry => rfl
    | none => exact ih fun other member => lowered other (List.mem_cons_of_mem _ member)

end Bindings

/-- No path leads a signal just where no bound name stands for it in any case. -/
theorem leadingPath?_eq_none {texts : OrderedMap Text Text} {signal : Signal} :
    leadingPath? texts signal = none ↔
      ∀ name ∈ keys texts, lower name ∉ signal.candidates := by
  unfold leadingPath?
  rw [List.findSome?_eq_none_iff]
  constructor
  · intro absent name member stands
    obtain ⟨entry, isEntry, rfl⟩ := List.mem_map.mp member
    have none := Option.map_eq_none_iff.mp (absent _ stands)
    simpa using List.find?_eq_none.mp none entry isEntry
  · intro absent candidate stands
    rw [Option.map_eq_none_iff, List.find?_eq_none]
    intro entry member same
    have named : lower entry.1 = candidate := by simpa using same
    exact absent entry.1 (List.mem_map_of_mem member) (named ▸ stands)

/-- A leading path is the path of a binding. -/
theorem mem_of_leadingPath? {texts : OrderedMap Text Text} {signal : Signal} {path : Text}
    (leads : leadingPath? texts signal = some path) :
    ∃ name, (name, path) ∈ texts ∧ lower name ∈ signal.candidates := by
  obtain ⟨candidate, stands, found⟩ := List.exists_of_findSome?_eq_some leads
  obtain ⟨entry, first, rfl⟩ := Option.map_eq_some_iff.mp found
  have named : lower entry.1 = candidate := by simpa using List.find?_some first
  exact ⟨entry.1, List.mem_of_find?_eq_some first, named ▸ stands⟩

end Leading

section Signals

namespace Signals

/-- The path of one of the signals. -/
def path (signals : Signals) : Signal → Value
  | .amount => signals.amount
  | .currency => signals.currency
  | .email => signals.email
  | .phone => signals.phone
  | .productId => signals.productId
  | .productName => signals.productName

/-- The signals of optional paths that are texts. -/
def ofPaths (path? : Signal → Option Text) : Signals :=
  { amount := .ofText (path? .amount)
    currency := .ofText (path? .currency)
    email := .ofText (path? .email)
    phone := .ofText (path? .phone)
    productId := .ofText (path? .productId)
    productName := .ofText (path? .productName) }

theorem pathOf_ofTexts (texts : OrderedMap Text Text) (signal : Signal) :
    pathOf (Bindings.ofTexts texts) signal = .ok (.ofText (leadingPath? texts signal)) := by
  rw [pathOf, Bindings.firstPathOf?_ofTexts texts (lower_candidate signal)]
  change Except.ok (Value.ofOption ((leadingPath? texts signal).map .string)) = _
  cases leadingPath? texts signal <;> rfl

/-- The signals of bindings of texts to texts are those of the leading paths. -/
theorem ofBindings_ofTexts (texts : OrderedMap Text Text) :
    ofBindings (Bindings.ofTexts texts) = .ok (ofPaths (leadingPath? texts)) := by
  simp only [ofBindings, pathOf_ofTexts]
  rfl

end Signals

/-- Generating a configuration from bindings of texts to texts succeeds. -/
theorem CustomerConfig.generate_ofTexts (customer : Value) (texts : OrderedMap Text Text)
    (lines : List LogLine) :
    ∃ added, (generate customer (Bindings.ofTexts texts)).outcomeBehind lines =
      (.ok (ofEvents customer (Signals.ofPaths (leadingPath? texts)).events), lines ++ added) := by
  simp only [generate, Signals.ofBindings_ofTexts]
  exact ⟨_, rfl⟩

end Signals

section Storing

open Json

namespace Signals

/-- The signals whose paths are read where those of the given ones were written. -/
def reread (signals : Signals) : Signals :=
  { amount := Json.reread signals.amount
    currency := Json.reread signals.currency
    email := Json.reread signals.email
    phone := Json.reread signals.phone
    productId := Json.reread signals.productId
    productName := Json.reread signals.productName }

theorem reread_ofPaths (path? : Signal → Option Text) :
    (ofPaths path?).reread = ofPaths fun signal => (path? signal).map paired := by
  have each (path : Option Text) : Json.reread (.ofText path) = .ofText (path.map paired) := by
    cases path <;> rfl
  simp only [reread, ofPaths, each]

theorem reread_purchase (signals : Signals) :
    signals.purchase.reread = signals.reread.purchase := by
  have currency := reread_orElse signals.currency (.string defaultCurrency)
  have plain : Json.reread (.string defaultCurrency) = .string defaultCurrency := rfl
  rw [plain] at currency
  simp only [purchase, reread, ← currency]
  rfl

theorem reread_lead (signals : Signals) : signals.lead.reread = signals.reread.lead := by
  have path (v : Value) : Json.reread (v.orElse (.string "")) =
      (Json.reread v).orElse (.string "") := reread_orElse v (.string "")
  simp only [lead, reread, ← path]
  rfl

theorem reread_viewItem (signals : Signals) :
    signals.viewItem.reread = signals.reread.viewItem := by
  simp only [viewItem, reread, isTruthy_reread]
  cases signals.productId.isTruthy with
  | false => rfl
  | true => cases signals.productName.isTruthy <;> rfl

/-- Storing the events of signals pairs the paths of the signals. -/
theorem map_reread_events (signals : Signals) :
    signals.events.map EventConfig.reread = signals.reread.events := by
  have kept (present : Bool) (event : EventConfig) :
      (if present then [event] else []).map EventConfig.reread =
        if present then [event.reread] else [] := by
    cases present <;> rfl
  simp only [events, List.map_append, kept, reread_purchase, reread_lead, reread_viewItem]
  simp only [reread, isTruthy_reread]

theorem mem_events {signals : Signals} {event : EventConfig} (member : event ∈ signals.events) :
    event = signals.purchase ∨ event = signals.lead ∨ event = signals.viewItem := by
  have only {present : Bool} {other : EventConfig}
      (member : event ∈ if present then [other] else []) : event = other := by
    cases present
    · cases member
    · exact List.mem_singleton.mp member
  rcases List.mem_append.mp member with member | member
  · rcases List.mem_append.mp member with member | member
    · exact .inl (only member)
    · exact .inr (.inl (only member))
  · exact .inr (.inr (only member))

/-- Whatever holds of the paths of signals, and of the texts that stand in for missing ones, holds
of every path that an event maps. -/
theorem each_mapped {P : Value → Prop} {signals : Signals}
    (each : ∀ signal, P (signals.path signal)) (currency : P (.string defaultCurrency))
    (nothing : P (.string "")) {event : EventConfig}
    (member : event ∈ signals.events) : ∀ entry ∈ event.mappings, ∀ field ∈ entry.2, P field.2 := by
  have orElse {path other : Value} (first : P path) (second : P other) : P (path.orElse other) := by
    unfold Value.orElse
    split
    · exact first
    · exact second
  rcases mem_events member with rfl | rfl | rfl
  · have priced : ∀ field ∈ ([("value_path", signals.amount),
        ("currency_path", signals.currency.orElse (.string defaultCurrency))] : Fields),
        P field.2 := List.forall_mem_cons.mpr
      ⟨each .amount, List.forall_mem_singleton.mpr (orElse (each .currency) currency)⟩
    refine List.forall_mem_cons.mpr ⟨priced, List.forall_mem_cons.mpr ⟨priced, ?_⟩⟩
    exact List.forall_mem_singleton.mpr (List.forall_mem_singleton.mpr (each .amount))
  · have contact : ∀ field ∈ ([("email_path", signals.email.orElse (.string "")),
        ("phone_path", signals.phone.orElse (.string ""))] : Fields), P field.2 :=
      List.forall_mem_cons.mpr
        ⟨orElse (each .email) nothing,
          List.forall_mem_singleton.mpr (orElse (each .phone) nothing)⟩
    exact List.forall_mem_cons.mpr ⟨contact, List.forall_mem_singleton.mpr contact⟩
  · unfold viewItem
    dsimp only
    cases signals.productId.isTruthy with
    | false => exact List.forall_mem_nil _
    | true =>
      have identified : ∀ field ∈ ([("item_id_path", signals.productId)] : Fields), P field.2 :=
        List.forall_mem_singleton.mpr (each .productId)
      refine List.forall_mem_cons.mpr ⟨identified, List.forall_mem_singleton.mpr ?_⟩
      refine List.forall_mem_append.mpr ⟨identified, ?_⟩
      cases signals.productName.isTruthy with
      | false => exact List.forall_mem_nil _
      | true => exact List.forall_mem_singleton.mpr (each .productName)

/-- Paths that are texts or absent are legible. -/
theorem legible_ofPaths {limits : Limits} {room : Nat} (path? : Signal → Option Text)
    (signal : Signal) : Legible limits room ((ofPaths path?).path signal) := by
  have is : (ofPaths path?).path signal = .ofText (path? signal) := by cases signal <;> rfl
  rw [is]
  cases path? signal with
  | none => exact .null room
  | some path => exact .string room path

end Signals

namespace CustomerConfig

/-- The configuration of a customer for signals is legible if the customer and the signals are. -/
theorem legible_ofEvents {limits : Limits} {room : Nat} {customer : Value} {signals : Signals}
    (own : Legible limits (room + 4) customer)
    (each : ∀ signal, Legible limits room (signals.path signal)) :
    Legible limits (room + 5) (ofEvents customer signals.events).encode := by
  refine legible_encode own own (.string _ _) (fun event member => ?_)
    fun event => Signals.each_mapped each (.string _ _) (.string _ _)
  rcases Signals.mem_events member with rfl | rfl | rfl <;> exact .string _ _

theorem reread_ofEvents (customer : Value) (signals : Signals) :
    (ofEvents customer signals.events).reread =
      ofEvents (Json.reread customer) signals.reread.events := by
  simp only [CustomerConfig.reread, ofEvents, Signals.map_reread_events]
  rfl

/-- A stored generated configuration is read as the one of the paired paths. -/
theorem ofText_generated (customer : Text) (path? : Signal → Option Text) :
    ofText (ofEvents (.string customer) (Signals.ofPaths path?).events).stored =
      .ok (ofEvents (.string (paired customer))
        (Signals.ofPaths fun signal => (path? signal).map paired).events) := by
  have legible : Legible Limits.standard (981 + 5)
      (ofEvents (.string customer) (Signals.ofPaths path?).events).encode :=
    legible_ofEvents (.string _ _) (Signals.legible_ofPaths path?)
  rw [stored, ofText_write rfl rfl legible, reread_ofEvents, Signals.reread_ofPaths]
  rfl

end CustomerConfig

end Storing

section Lookup

theorem equal_string (s t : Text) : (Value.string s).equal (.string t) = (s == t) := by
  simp [Value.equal, Value.isNaN, Value.same]

/-- The event of a name among those that signals give rise to. -/
theorem Signals.find?_events (signals : Signals) (name : Text) :
    (signals.events.find? fun event => event.name.equal (.string name)) =
      if name = "purchase" then if signals.amount.isTruthy then some signals.purchase else none
      else if name = "lead" then
        if signals.email.isTruthy || signals.phone.isTruthy then some signals.lead else none
      else if name = "view_item" then
        if signals.productId.isTruthy || signals.productName.isTruthy then some signals.viewItem
        else none
      else none := by
  have one (present : Bool) (event : EventConfig) (own : Text) (named : event.name = .string own) :
      ((if present then [event] else []).find? fun event => event.name.equal (.string name)) =
        if name = own then if present then some event else none else none := by
    cases present with
    | false => simp
    | true =>
      simp only [if_true, List.find?_cons, List.find?_nil, named, equal_string]
      by_cases same : own = name
      · rw [beq_iff_eq.mpr same, if_pos same.symm]
      · rw [beq_eq_false_iff_ne.mpr same, if_neg (Ne.symm same)]
  simp only [events, List.find?_append, one _ signals.purchase "purchase" rfl,
    one _ signals.lead "lead" rfl, one _ signals.viewItem "view_item" rfl]
  by_cases isPurchase : name = "purchase"
  · have notLead : name ≠ "lead" := isPurchase ▸ by decide
    have notViewItem : name ≠ "view_item" := isPurchase ▸ by decide
    simp only [if_pos isPurchase, if_neg notLead, if_neg notViewItem, Option.or_none]
  by_cases isLead : name = "lead"
  · have notViewItem : name ≠ "view_item" := isLead ▸ by decide
    simp only [if_neg isPurchase, if_pos isLead, if_neg notViewItem, Option.or_none, Option.none_or]
  · simp only [if_neg isPurchase, if_neg isLead, Option.none_or]

end Lookup

end ConversionRelay
