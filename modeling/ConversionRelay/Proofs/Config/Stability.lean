import ConversionRelay.Proofs.Config.Synthesis
import Mathlib.Data.List.Find
import Mathlib.Data.List.Nodup
/-!
What a generated configuration does not depend on.

A configuration depends on the variables that stand for some signal and on nothing else. Their order
only matters to names that agree in lower case, since of names that differ the rank decides. One
more variable never takes an event or a platform away, and the path of a signal that was led before
is replaced only where the new name ranks before that of its leader.

Main statement: `CustomerConfig.generates_stable`.
-/
namespace ConversionRelay

open OrderedMap Text

section Leading

variable {texts others : OrderedMap Text Text} {signal : Signal}

/-- The path of a signal depends on nothing but the first entry for each of its candidates. -/
theorem leadingPath?_congr (same : ∀ candidate ∈ signal.candidates,
    (texts.find? fun entry => lower entry.1 == candidate) =
      others.find? fun entry => lower entry.1 == candidate) :
    leadingPath? texts signal = leadingPath? others signal := by
  revert same
  unfold leadingPath?
  induction signal.candidates with
  | nil => exact fun _ => rfl
  | cons candidate lesser ih =>
    intro same
    have rest := ih fun other member => same other (List.mem_cons_of_mem _ member)
    rw [List.findSome?_cons, List.findSome?_cons, same candidate List.mem_cons_self, rest]

/-- Whether a name stands for any signal. -/
def isRecognised (name : Text) : Bool :=
  [.amount, .currency, .email, .phone, .productId, .productName].any fun signal : Signal =>
    signal.StandsFor name

theorem isRecognised_of_standsFor {name : Text} (stands : signal.StandsFor name) :
    isRecognised name = true := by
  refine List.any_eq_true.mpr ⟨signal, ?_, decide_eq_true stands⟩
  cases signal <;> simp

/-- Entries that are not recognised lead nothing. -/
theorem leadingPath?_filter (texts : OrderedMap Text Text) (signal : Signal) :
    leadingPath? (texts.filter fun entry => isRecognised entry.1) signal =
      leadingPath? texts signal := by
  apply leadingPath?_congr
  intro candidate isCandidate
  rw [List.find?_filter]
  apply List.find?_congr
  intro entry _
  by_cases named : lower entry.1 = candidate
  · have stands : signal.StandsFor entry.1 := by rwa [Signal.StandsFor, named]
    simp [named, isRecognised_of_standsFor stands]
  · simp [named]

/-- Among names that differ in lower case, the first entry for a candidate is the only one. -/
theorem find?_lower_eq_some (distinct : ((keys texts).map lower).Nodup) {candidate : Text}
    {entry : Text × Text} :
    (texts.find? fun entry => lower entry.1 == candidate) = some entry ↔
      entry ∈ texts ∧ lower entry.1 = candidate := by
  rw [keys, List.map_map] at distinct
  constructor
  · intro found
    exact ⟨List.mem_of_find?_eq_some found, by simpa using List.find?_some found⟩
  · rintro ⟨member, named⟩
    cases found : texts.find? fun entry => lower entry.1 == candidate with
    | none => simpa [named] using List.find?_eq_none.mp found entry member
    | some other =>
      have named' : lower other.1 = candidate := by simpa using List.find?_some found
      have same := List.inj_on_of_nodup_map distinct (List.mem_of_find?_eq_some found) member
        (named'.trans named.symm)
      rw [same]

/-- The order of entries whose names differ in lower case does not matter. -/
theorem leadingPath?_perm (distinct : ((keys texts).map lower).Nodup) (perm : texts.Perm others)
    (signal : Signal) : leadingPath? texts signal = leadingPath? others signal := by
  have distinct' : ((keys others).map lower).Nodup :=
    ((perm.map Prod.fst).map lower).nodup_iff.mp distinct
  apply leadingPath?_congr
  intro candidate _
  apply Option.ext
  intro entry
  rw [find?_lower_eq_some distinct, find?_lower_eq_some distinct', perm.mem_iff]

end Leading

section Growing

variable {texts : OrderedMap Text Text} {signal : Signal} {place : ℕ} {entry : Text × Text}

theorem getElem?_append_singleton {α : Type} {items : List α} {last item : α} {place : ℕ}
    (holds : (items ++ [last])[place]? = some item) :
    items[place]? = some item ∨ place = items.length ∧ item = last := by
  rcases Nat.lt_trichotomy place items.length with within | same | beyond
  · rw [List.getElem?_append_left within] at holds
    exact .inl holds
  · rw [same, List.getElem?_concat_length] at holds
    exact .inr ⟨same, (Option.some.inj holds).symm⟩
  · have none : (items ++ [last])[place]? = none := by
      rw [List.getElem?_eq_none_iff, List.length_append]
      exact beyond
    rw [none] at holds
    cases holds

namespace Signal

/-- An entry at the end takes the lead where it ranks before the leader. -/
theorem Leads.append_of_lt (leads : signal.Leads texts place entry) {name : Text}
    (outranks : signal.rank name < signal.rank entry.1) (path : Text) :
    signal.Leads (texts ++ [(name, path)]) texts.length (name, path) := by
  refine ⟨List.getElem?_concat_length, ?_, ?_⟩
  · exact rank_lt_iff.mp (outranks.trans (rank_lt_iff.mpr leads.stands))
  · intro place' entry' holds' stands'
    obtain former | ⟨rfl, rfl⟩ := getElem?_append_singleton holds'
    · refine precedence_le_iff.mpr (.inl (outranks.trans_le ?_))
      obtain less | ⟨same, _⟩ := precedence_le_iff.mp (leads.least place' entry' former stands')
      · exact less.le
      · exact same.le
    · exact le_refl _

/-- An entry at the end that does not rank before the leader leaves it the lead. -/
theorem Leads.append_of_le (leads : signal.Leads texts place entry) {name : Text}
    (ranks : signal.rank entry.1 ≤ signal.rank name) (path : Text) :
    signal.Leads (texts ++ [(name, path)]) place entry := by
  have within : place < texts.length := (List.getElem?_eq_some_iff.mp leads.holds).1
  refine ⟨?_, leads.stands, ?_⟩
  · rw [List.getElem?_append_left within]
    exact leads.holds
  · intro place' entry' holds' stands'
    obtain former | ⟨rfl, rfl⟩ := getElem?_append_singleton holds'
    · exact leads.least place' entry' former stands'
    · rw [precedence_le_iff]
      exact ranks.lt_or_eq.imp_right fun same => ⟨same, within.le⟩

end Signal

/-- A signal that was led is led after an entry was added. -/
theorem isSome_leadingPath?_append (led : (leadingPath? texts signal).isSome)
    (added : Text × Text) : (leadingPath? (texts ++ [added]) signal).isSome := by
  obtain ⟨path, is⟩ := Option.isSome_iff_exists.mp led
  obtain ⟨place, entry, leads, _⟩ := leadingPath?_eq_some.mp is
  obtain outranks | ranks := lt_or_ge (signal.rank added.1) (signal.rank entry.1)
  · rw [leadingPath?_eq_some.mpr ⟨_, _, leads.append_of_lt outranks added.2, rfl⟩]
    rfl
  · rw [leadingPath?_eq_some.mpr ⟨_, _, leads.append_of_le ranks added.2, rfl⟩]
    rfl

end Growing

namespace EventPattern

variable {path? path?' : Signal → Option Text}

/-- The entries of an event are those of the platforms that its pattern maps. -/
theorem keys_filterMap_entry? (path? : Signal → Option Text) (pattern : EventPattern)
    (platforms : List Platform) : keys (platforms.filterMap (pattern.entry? path?)) =
      (platforms.filter fun platform => (pattern.mapping? path? platform).isSome).map
        Platform.key := by
  induction platforms with
  | nil => rfl
  | cons platform others ih =>
    rw [List.filterMap_cons, List.filter_cons, entry?]
    cases pattern.mapping? path? platform with
    | none => exact ih
    | some mapping => exact congrArg (platform.key :: ·) ih

/-- With more signals led, no platform is lost. -/
theorem isSome_mapping? (more : ∀ signal, (path? signal).isSome → (path?' signal).isSome)
    (pattern : EventPattern) (platform : Platform)
    (mapped : (pattern.mapping? path? platform).isSome) :
    (pattern.mapping? path?' platform).isSome := by
  cases pattern with
  | purchase =>
    have led : (path?' .amount).isSome :=
      more .amount (by cases platform <;> simpa only [mapping?, Option.isSome_map] using mapped)
    cases platform <;> simpa only [mapping?, Option.isSome_map] using led
  | lead =>
    cases platform with
    | googleAds => cases mapped
    | _ => rfl
  | viewItem =>
    cases platform with
    | googleAds => cases mapped
    | _ =>
      rw [mapping?, Option.isSome_map] at mapped ⊢
      exact more .productId mapped

theorem isTriggered_mono (more : ∀ signal, (path? signal).isSome → (path?' signal).isSome)
    (pattern : EventPattern) (triggered : pattern.isTriggered path?) :
    pattern.isTriggered path?' := by
  obtain ⟨signal, isTrigger, led⟩ := List.any_eq_true.mp triggered
  exact List.any_eq_true.mpr ⟨signal, isTrigger, more signal led⟩

end EventPattern

namespace CustomerConfig

/-- A configuration is generated for a customer from variables with texts for names and paths. -/
def Generates (customer : Value) (texts : OrderedMap Text Text) (config : CustomerConfig) : Prop :=
  (generate customer (Bindings.ofTexts texts)).outcome.1 = .ok config

/-- A configuration has the events of another one in their order, and each of them tells at least
the same platforms. -/
structure Covers (after before : CustomerConfig) : Prop where
  events : before.eventNames.Sublist after.eventNames
  platforms : ∀ event ∈ before.events, ∃ event' ∈ after.events, event'.name = event.name ∧
    (keys event.mappings).Sublist (keys event'.mappings)

/-- With more signals led, nothing is taken away. -/
theorem covers_of_more {path? path?' : Signal → Option Text}
    (more : ∀ signal, (path? signal).isSome → (path?' signal).isSome) (customer : Value) :
    (ofEvents customer (EventPattern.events path?')).Covers
      (ofEvents customer (EventPattern.events path?)) := by
  have kept : (EventPattern.all.filter (EventPattern.isTriggered path?)).Sublist
      (EventPattern.all.filter (EventPattern.isTriggered path?')) :=
    List.monotone_filter_right _ (EventPattern.isTriggered_mono more)
  constructor
  · have names (path? : Signal → Option Text) :
        (ofEvents customer (EventPattern.events path?)).eventNames =
          (EventPattern.all.filter (EventPattern.isTriggered path?)).map fun pattern =>
            .string pattern.name := by
      rw [eventNames, ofEvents, EventPattern.events, List.map_map]
      rfl
    rw [names, names]
    exact kept.map _
  · intro event member
    obtain ⟨pattern, triggered, rfl⟩ := List.mem_map.mp member
    refine ⟨pattern.event path?', List.mem_map_of_mem (kept.subset triggered), rfl, ?_⟩
    rw [EventPattern.event, EventPattern.event, EventPattern.keys_filterMap_entry?,
      EventPattern.keys_filterMap_entry?]
    exact (List.monotone_filter_right _ (pattern.isSome_mapping? more)).map _

variable {texts : OrderedMap Text Text}

theorem generates_of_leadingPath? (customer : Value) {others : OrderedMap Text Text}
    (same : ∀ signal, leadingPath? others signal = leadingPath? texts signal) :
    Generates customer others
      (ofEvents customer (Signals.ofPaths (leadingPath? texts)).events) := by
  obtain ⟨added, generates⟩ := generate_ofTexts customer others []
  rw [funext same] at generates
  exact congrArg Prod.fst generates

/-- Whatever variables with texts for names and paths are given, the same configuration is generated
from any others of which the same are recognised, in the same order. If no two names agree in lower
case, it is also generated from the variables in any other order. One more variable, whose name is
new in lower case, takes no event and no platform away. A signal that was found before is then found
at the new path if the new name ranks before that of its leader, and otherwise where it was. -/
theorem generates_stable (pathed : ∀ entry ∈ texts, entry.2 ≠ []) (customer : Value) :
    ∃ config, Generates customer texts config ∧
      (∀ others : OrderedMap Text Text, (others.filter fun entry => isRecognised entry.1) =
        (texts.filter fun entry => isRecognised entry.1) → Generates customer others config) ∧
      (((keys texts).map lower).Nodup → ∀ others, texts.Perm others →
        Generates customer others config) ∧
      ∀ name path, path ≠ [] → lower name ∉ (keys texts).map lower →
        (∃ after, Generates customer (put texts name path) after ∧ after.Covers config) ∧
        ∀ (signal : Signal) (found : Value),
          (Bindings.ofTexts texts).firstPathOf? signal.candidates = .ok (some found) →
          ∃ place entry found', signal.Leads texts place entry ∧ .string entry.2 = found ∧
            (Bindings.ofTexts (put texts name path)).firstPathOf? signal.candidates =
              .ok (some found') ∧
            if signal.rank name < signal.rank entry.1 then
              signal.StandsFor name ∧ found' = .string path
            else found' = found := by
  refine ⟨_, generates_of_leadingPath? customer fun _ => rfl, fun others same => ?_,
    fun distinct others perm => ?_, fun name path nonempty new => ?_⟩
  · apply generates_of_leadingPath?
    intro signal
    rw [← leadingPath?_filter others, same, leadingPath?_filter]
  · apply generates_of_leadingPath?
    intro signal
    exact (leadingPath?_perm distinct perm signal).symm
  have absent : name ∉ keys texts := fun bound => new (List.mem_map_of_mem bound)
  rw [put_of_not_mem absent]
  constructor
  · have pathed' : ∀ entry ∈ texts ++ [(name, path)], entry.2 ≠ [] :=
      List.forall_mem_append.mpr ⟨pathed, List.forall_mem_singleton.mpr nonempty⟩
    refine ⟨_, generates_of_leadingPath? customer fun _ => rfl, ?_⟩
    rw [Signals.events_ofPaths (leadingPath?_ne_nil pathed),
      Signals.events_ofPaths (leadingPath?_ne_nil pathed')]
    exact covers_of_more (fun signal led => isSome_leadingPath?_append led _) customer
  · have finds (texts : OrderedMap Text Text) (signal : Signal) :
        (Bindings.ofTexts texts).firstPathOf? signal.candidates =
          .ok ((leadingPath? texts signal).map .string) :=
      Bindings.firstPathOf?_ofTexts texts (lower_candidate signal)
    intro signal found is
    rw [finds] at is
    obtain ⟨_, led, rfl⟩ := Option.map_eq_some_iff.mp (Except.ok.inj is)
    obtain ⟨place, entry, leads, rfl⟩ := leadingPath?_eq_some.mp led
    rw [finds]
    by_cases outranks : signal.rank name < signal.rank entry.1
    · have leads' := leads.append_of_lt outranks path
      refine ⟨place, entry, .string path, leads, rfl, ?_, ?_⟩
      · rw [leadingPath?_eq_some.mpr ⟨_, _, leads', rfl⟩]
        rfl
      · rw [if_pos outranks]
        exact ⟨leads'.stands, rfl⟩
    · have leads' := leads.append_of_le (Nat.le_of_not_lt outranks) path
      refine ⟨place, entry, .string entry.2, leads, rfl, ?_, ?_⟩
      · rw [leadingPath?_eq_some.mpr ⟨_, _, leads', rfl⟩]
        rfl
      · rw [if_neg outranks]

/-- A note is dropped, a revenue and an email are swapped, and an order total takes over from the
revenue. -/
theorem generates_stable_total :
    let texts : OrderedMap Text Text := [("Revenue", "r"), ("Note", "n"), ("EMAIL", "e")]
    let fewer : OrderedMap Text Text := [("Revenue", "r"), ("EMAIL", "e")]
    let swapped : OrderedMap Text Text := [("EMAIL", "e"), ("Note", "n"), ("Revenue", "r")]
    let more := put texts "Order Total" "t"
    (∀ entry ∈ texts, entry.2 ≠ []) ∧
      (fewer.filter fun entry => isRecognised entry.1) =
        (texts.filter fun entry => isRecognised entry.1) ∧
      ((keys texts).map lower).Nodup ∧ texts.Perm swapped ∧
      lower "Order Total" ∉ (keys texts).map lower ∧
      ∃ config after, Generates (.string "acme") texts config ∧
        Generates (.string "acme") fewer config ∧ Generates (.string "acme") swapped config ∧
        Generates (.string "acme") more after ∧ after.Covers config ∧
        (Bindings.ofTexts texts).firstPathOf? Signal.amount.candidates =
          .ok (some (.string "r")) ∧
        (Bindings.ofTexts more).firstPathOf? Signal.amount.candidates =
          .ok (some (.string "t")) := by
  intro texts fewer swapped more
  have pathed : ∀ entry ∈ texts, entry.2 ≠ [] := by decide
  have same : (fewer.filter fun entry => isRecognised entry.1) =
      (texts.filter fun entry => isRecognised entry.1) := by decide +kernel
  have distinct : ((keys texts).map lower).Nodup := by decide +kernel
  have perm : texts.Perm swapped := by decide
  have new : lower "Order Total" ∉ (keys texts).map lower := by decide +kernel
  obtain ⟨config, generates, dropping, ordering, adding⟩ :=
    generates_stable pathed (.string "acme")
  obtain ⟨⟨after, generates', covers⟩, finding⟩ := adding "Order Total" "t" (by decide) new
  have led : leadingPath? texts .amount = some (Text.ofString "r") := by decide +kernel
  have found : (Bindings.ofTexts texts).firstPathOf? Signal.amount.candidates =
      .ok (some (.string "r")) := by
    rw [Bindings.firstPathOf?_ofTexts texts (lower_candidate .amount)]
    exact congrArg (fun path? => Except.ok (Option.map Value.string path?)) led
  obtain ⟨place, entry, found', leads, same', finds, taken⟩ := finding .amount _ found
  have behind : ∀ entry ∈ texts, Signal.amount.StandsFor entry.1 →
      Signal.amount.rank "Order Total" < Signal.amount.rank entry.1 := by decide +kernel
  have outranks := behind entry (List.mem_of_getElem? leads.holds) leads.stands
  rw [if_pos outranks] at taken
  rw [taken.2] at finds
  exact ⟨pathed, same, distinct, perm, new, config, after, generates, dropping fewer same,
    ordering distinct swapped perm, generates', covers, found, finds⟩

end CustomerConfig

end ConversionRelay
