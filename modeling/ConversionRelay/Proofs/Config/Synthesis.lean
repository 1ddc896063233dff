import ConversionRelay.Proofs.Config.Generation
import Mathlib.Data.Prod.Lex
/-!
Which variables lead the signals, and which events follow from them.

A variable stands for a signal if its name is a candidate of the signal in some case. Of the
variables that stand for a signal the one leads it that comes first in a lexicographic order: by the
rank of its name among the candidates, and of equal ranks by its place. The signals that are led
decide on the events and on everything that these map (`EventPattern`).

Main statements: the path of a signal is that of its leader (`leadingPath?_eq_some`), and the events
of a generated configuration are those that the led signals trigger
(`CustomerConfig.generate_synthesized`).
-/
namespace ConversionRelay

open OrderedMap Text

namespace Signal

/-- A name stands for a signal: in lower case it is one of the candidates. -/
def StandsFor (signal : Signal) (name : Text) : Prop := lower name ∈ signal.candidates

instance (signal : Signal) (name : Text) : Decidable (signal.StandsFor name) :=
  inferInstanceAs (Decidable (lower name ∈ signal.candidates))

/-- The rank of a name among the candidates of a signal. A name that does not stand for the signal
ranks behind all that do. -/
def rank (signal : Signal) (name : Text) : ℕ := signal.candidates.idxOf (lower name)

/-- Where a name at a place comes among those that stand for a signal: by its rank, then by its
place. -/
def precedence (signal : Signal) (name : Text) (place : ℕ) : ℕ ×ₗ ℕ :=
  toLex (signal.rank name, place)

/-- An entry leads a signal: it stands for the signal, and no other one that does comes before
it. -/
structure Leads (signal : Signal) (texts : OrderedMap Text Text) (place : ℕ)
    (entry : Text × Text) : Prop where
  holds : texts[place]? = some entry
  stands : signal.StandsFor entry.1
  least : ∀ place' entry', texts[place']? = some entry' → signal.StandsFor entry'.1 →
    signal.precedence entry.1 place ≤ signal.precedence entry'.1 place'

variable {signal : Signal} {texts : OrderedMap Text Text}

theorem rank_lt_iff {name : Text} :
    signal.rank name < signal.candidates.length ↔ signal.StandsFor name :=
  List.idxOf_lt_length_iff

theorem precedence_le_iff {name name' : Text} {place place' : ℕ} :
    signal.precedence name place ≤ signal.precedence name' place' ↔
      signal.rank name < signal.rank name' ∨
        signal.rank name = signal.rank name' ∧ place ≤ place' :=
  Prod.Lex.toLex_le_toLex

/-- The leader of a signal is unique. -/
theorem Leads.unique {place place' : ℕ} {entry entry' : Text × Text}
    (leads : signal.Leads texts place entry) (leads' : signal.Leads texts place' entry') :
    entry = entry' := by
  have same : signal.precedence entry.1 place = signal.precedence entry'.1 place' :=
    le_antisymm (leads.least place' entry' leads'.holds leads'.stands)
      (leads'.least place entry leads.holds leads.stands)
  have places : place = place' := congrArg (fun key => (ofLex key).2) same
  have holds := leads.holds
  rw [places, leads'.holds] at holds
  exact (Option.some.inj holds).symm

end Signal

section Leading

variable {texts : OrderedMap Text Text} {signal : Signal} {path : Text}

/-- The path that was found is that of a leader: its candidate is the first that any name matches,
and it is the first entry that matches this candidate. -/
theorem leads_of_leadingPath? (found : leadingPath? texts signal = some path) :
    ∃ place entry, signal.Leads texts place entry ∧ entry.2 = path := by
  obtain ⟨higher, candidate, lesser, split, matched, unmatched⟩ :=
    List.findSome?_eq_some_iff.mp found
  obtain ⟨entry, first, rfl⟩ := Option.map_eq_some_iff.mp matched
  obtain ⟨named, place, within, rfl, earlier⟩ := List.find?_eq_some_iff_getElem.mp first
  have named : lower texts[place].1 = candidate := by simpa using named
  have standing : ∀ (place' : ℕ) (entry' : Text × Text), texts[place']? = some entry' →
      lower entry'.1 ∉ higher := by
    intro place' entry' holds matched
    have none := Option.map_eq_none_iff.mp (unmatched _ matched)
    simpa using List.find?_eq_none.mp none entry' (List.mem_of_getElem? holds)
  have holds : texts[place]? = some texts[place] := List.getElem?_eq_getElem within
  have rank : signal.rank texts[place].1 = higher.length := by
    have new := standing place _ holds
    rw [Signal.rank, split, List.idxOf_append_of_notMem new, named, List.idxOf_cons_self,
      Nat.add_zero]
  refine ⟨place, texts[place], ⟨holds, ?_, ?_⟩, rfl⟩
  · rw [Signal.StandsFor, split, named]
    exact List.mem_append_right _ List.mem_cons_self
  · intro place' entry' holds' _
    have rank' : signal.rank entry'.1 =
        higher.length + (candidate :: lesser).idxOf (lower entry'.1) := by
      rw [Signal.rank, split, List.idxOf_append_of_notMem (standing place' entry' holds')]
    rw [Signal.precedence_le_iff, rank, rank']
    by_cases same : lower entry'.1 = candidate
    · right
      refine ⟨by rw [same, List.idxOf_cons_self, Nat.add_zero], ?_⟩
      by_contra before
      obtain ⟨within', is⟩ := List.getElem?_eq_some_iff.mp holds'
      have other := earlier place' (Nat.lt_of_not_le before)
      rw [is] at other
      simp [same] at other
    · left
      rw [List.idxOf_cons_ne _ (Ne.symm same)]
      exact Nat.lt_add_of_pos_right (Nat.succ_pos _)

/-- The path of a signal is that of its leader. -/
theorem leadingPath?_eq_some :
    leadingPath? texts signal = some path ↔
      ∃ place entry, signal.Leads texts place entry ∧ entry.2 = path := by
  constructor
  · exact leads_of_leadingPath?
  · rintro ⟨place, entry, leads, rfl⟩
    cases found : leadingPath? texts signal with
    | none =>
      have member : entry.1 ∈ keys texts :=
        List.mem_map_of_mem (List.mem_of_getElem? leads.holds)
      exact absurd leads.stands (leadingPath?_eq_none.mp found entry.1 member)
    | some path =>
      obtain ⟨place', entry', leads', rfl⟩ := leads_of_leadingPath? found
      rw [leads.unique leads']

end Leading

/-- The events that generated configurations may have. -/
inductive EventPattern where
  | purchase
  | lead
  | viewItem
  deriving DecidableEq, Repr

namespace EventPattern

/-- The patterns in the order of their events. -/
def all : List EventPattern := [purchase, lead, viewItem]

/-- The name of the event of a pattern. -/
def name : EventPattern → Text
  | purchase => "purchase"
  | lead => "lead"
  | viewItem => "view_item"

/-- The signals each of which triggers a pattern. -/
def triggers : EventPattern → List Signal
  | purchase => [.amount]
  | lead => [.email, .phone]
  | viewItem => [.productId, .productName]

variable (path? : Signal → Option Text)

/-- Whether a pattern is triggered by signals with the given paths. -/
def isTriggered (pattern : EventPattern) : Bool :=
  pattern.triggers.any fun signal => (path? signal).isSome

/-- The paths that a triggered pattern maps for a platform, if it maps the platform. Google Ads is
told of purchases alone, a view of an item needs the identifier of the item, and only GA4 takes the
name of one. -/
def mapping? : EventPattern → Platform → Option (OrderedMap Text Text)
  | purchase, .googleAds => (path? .amount).map fun path => [("conversion_value", path)]
  | purchase, _ => (path? .amount).map fun path =>
    [("value_path", path), ("currency_path", (path? .currency).getD defaultCurrency)]
  | lead, .googleAds => none
  | lead, _ => some [("email_path", (path? .email).getD ""), ("phone_path", (path? .phone).getD "")]
  | viewItem, .facebook => (path? .productId).map fun path => [("item_id_path", path)]
  | viewItem, .ga4 => (path? .productId).map fun path =>
    ("item_id_path", path) :: match path? .productName with
      | some name => [("item_name_path", name)]
      | none => []
  | viewItem, .googleAds => none

/-- The entry of a platform in the event of a pattern. -/
def entry? (pattern : EventPattern) (platform : Platform) : Option (Text × Fields) :=
  (pattern.mapping? path? platform).map fun mapping =>
    (platform.key, mapping.map fun field => (field.1, .string field.2))

/-- The event of a pattern. -/
def event (pattern : EventPattern) : EventConfig :=
  { name := .string pattern.name
    mappings := [.facebook, .ga4, .googleAds].filterMap (pattern.entry? path?) }

/-- The events of all patterns that are triggered. -/
def events : List EventConfig := (all.filter (isTriggered path?)).map (event path?)

end EventPattern

namespace Signals

variable {path? : Signal → Option Text}

theorem purchase_ofPaths (present : ∀ signal, path? signal ≠ some [])
    (led : (path? .amount).isSome) :
    (ofPaths path?).purchase = EventPattern.purchase.event path? := by
  obtain ⟨path, is⟩ := Option.isSome_iff_exists.mp led
  simp only [purchase, ofPaths, Value.orElse_ofText (present .currency), EventPattern.event,
    List.filterMap_cons, EventPattern.entry?, EventPattern.mapping?, is]
  rfl

theorem lead_ofPaths (present : ∀ signal, path? signal ≠ some []) :
    (ofPaths path?).lead = EventPattern.lead.event path? := by
  have email := Value.orElse_ofText (present .email)
  have phone := Value.orElse_ofText (present .phone)
  simp only [lead, ofPaths, email, phone]
  rfl

theorem viewItem_ofPaths (present : ∀ signal, path? signal ≠ some []) :
    (ofPaths path?).viewItem = EventPattern.viewItem.event path? := by
  simp only [viewItem, ofPaths, Value.isTruthy_ofText (present _), EventPattern.event,
    List.filterMap_cons, EventPattern.entry?, EventPattern.mapping?]
  cases path? .productId with
  | none => rfl
  | some path => cases path? .productName <;> rfl

/-- The events of signals are those of the patterns that the signals trigger. -/
theorem events_ofPaths (present : ∀ signal, path? signal ≠ some []) :
    (ofPaths path?).events = EventPattern.events path? := by
  have each (signal : Signal) : (Value.ofText (path? signal)).isTruthy = (path? signal).isSome :=
    Value.isTruthy_ofText (present signal)
  have purchases : (if (Value.ofText (path? .amount)).isTruthy then [(ofPaths path?).purchase]
      else []) = if (path? .amount).isSome then [EventPattern.purchase.event path?] else [] := by
    rw [each]
    by_cases led : (path? .amount).isSome
    · rw [if_pos led, if_pos led, purchase_ofPaths present led]
    · rw [if_neg led, if_neg led]
  rw [events, lead_ofPaths present, viewItem_ofPaths present]
  simp only [ofPaths, each] at purchases ⊢
  rw [purchases]
  simp only [EventPattern.events, EventPattern.all, List.filter_cons, List.filter_nil,
    EventPattern.isTriggered, EventPattern.triggers, List.any_cons, List.any_nil, Bool.or_false]
  cases (path? .amount).isSome <;> cases (path? .email).isSome || (path? .phone).isSome <;>
    cases (path? .productId).isSome || (path? .productName).isSome <;> rfl

end Signals

namespace CustomerConfig

variable {texts : OrderedMap Text Text}

theorem leadingPath?_ne_nil (pathed : ∀ entry ∈ texts, entry.2 ≠ []) (signal : Signal) :
    leadingPath? texts signal ≠ some [] := by
  intro empty
  obtain ⟨name, member, _⟩ := mem_of_leadingPath? empty
  exact pathed _ member rfl

/-- Generating succeeds with the events of the patterns that the led signals trigger. -/
theorem generate_patterns (pathed : ∀ entry ∈ texts, entry.2 ≠ []) (customer : Value)
    (lines : List LogLine) :
    ∃ added, (generate customer (Bindings.ofTexts texts)).outcomeBehind lines =
      (.ok (ofEvents customer (EventPattern.events (leadingPath? texts))), lines ++ added) := by
  rw [← Signals.events_ofPaths (leadingPath?_ne_nil pathed)]
  exact generate_ofTexts customer texts lines

/-- Whatever variables with texts for names and paths are given, each signal is found at the path of
its leader, and is not found just where no name stands for it. A configuration is generated, and its
events are those of the patterns that the signals trigger, in their order, with what the patterns
map. -/
theorem generate_synthesized (pathed : ∀ entry ∈ texts, entry.2 ≠ []) (customer : Value)
    (lines : List LogLine) :
    ∃ path? : Signal → Option Text,
      (∀ signal, Bindings.firstPathOf? (Bindings.ofTexts texts) signal.candidates =
        .ok ((path? signal).map .string)) ∧
      (∀ signal path, path? signal = some path ↔
        ∃ place entry, signal.Leads texts place entry ∧ entry.2 = path) ∧
      (∀ signal, path? signal = none ↔ ∀ entry ∈ texts, ¬signal.StandsFor entry.1) ∧
      ∃ added, (generate customer (Bindings.ofTexts texts)).outcomeBehind lines =
        (.ok (ofEvents customer (EventPattern.events path?)), lines ++ added) := by
  refine ⟨leadingPath? texts, fun signal => ?_, fun signal path => leadingPath?_eq_some,
    fun signal => ?_, generate_patterns pathed customer lines⟩
  · exact Bindings.firstPathOf?_ofTexts texts (lower_candidate signal)
  · rw [leadingPath?_eq_none]
    exact List.forall_mem_map

/-- A total ranks before two revenues that were bound before it, and nothing but a phone number is
known of a lead. -/
theorem generate_synthesized_total :
    let texts : OrderedMap Text Text := [("REVENUE", "b"), ("Phone", "tel"), ("revenue", "a"),
      ("Order Total", "t"), ("Item_Name", "label")]
    let priced : Fields := [("value_path", .string "t"), ("currency_path", .string "USD")]
    let contact : Fields := [("email_path", .string ""), ("phone_path", .string "tel")]
    (∀ entry ∈ texts, entry.2 ≠ []) ∧
      (∃ place entry, Signal.amount.Leads texts place entry ∧ entry.2 = "t") ∧
      ∃ added, (generate (.string "acme") (Bindings.ofTexts texts)).outcomeBehind [] =
        (.ok (ofEvents (.string "acme") [
          ⟨.string "purchase", [("facebook", priced), ("ga4", priced),
            ("googleAds", [("conversion_value", .string "t")])]⟩,
          ⟨.string "lead", [("facebook", contact), ("ga4", contact)]⟩,
          ⟨.string "view_item", []⟩]), added) := by
  intro texts priced contact
  have pathed : ∀ entry ∈ texts, entry.2 ≠ [] := by decide
  obtain ⟨path?, _, leaders, _, added, generates⟩ :=
    generate_synthesized pathed (.string "acme") []
  let led : Signal → Option Text
    | .amount => some (Text.ofString "t")
    | .phone => some (Text.ofString "tel")
    | .productName => some (Text.ofString "label")
    | _ => none
  have found : path? = led := by
    funext signal
    have is : leadingPath? texts signal = led signal := by cases signal <;> decide +kernel
    rw [← is]
    exact Option.ext fun path => (leaders signal path).trans leadingPath?_eq_some.symm
  subst found
  exact ⟨pathed, (leaders .amount "t").mp rfl, added, generates⟩

end CustomerConfig

end ConversionRelay
