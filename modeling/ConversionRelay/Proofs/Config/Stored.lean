import ConversionRelay.Config.Codec
import ConversionRelay.Proofs.Json.RoundTrip
/-!
What is read back of a stored configuration.

Encoding loses nothing, so decoding what was encoded gives the configuration back. A configuration
that goes through a text comes back with its strings paired: reading a written value and encoding a
configuration may change places (`reread_encode`).

Main statements: encoding and decoding a configuration undo each other
(`CustomerConfig.decode_encode`), and the text of a legible configuration is read as the
configuration with paired strings (`CustomerConfig.ofText_write`).
-/
namespace ConversionRelay

open OrderedMap

namespace Json

/-- What reading makes of the fields of an object that was written. -/
def rereadObject (fields : Fields) : Fields := ofPairs (rereadFields fields)

theorem reread_object (fields : Fields) : reread (.object fields) = .object (rereadObject fields) :=
  rfl

theorem isEmpty_update {κ α : Type} [BEq κ] (m new : OrderedMap κ α) :
    List.isEmpty (update m new) = (List.isEmpty m && List.isEmpty new) := by
  induction new generalizing m with
  | nil => simp [update_nil]
  | cons entry rest ih =>
    have bound : List.isEmpty (put m entry.1 entry.2) = false := by
      cases m with
      | nil => rfl
      | cons first others =>
        simp only [put_cons]
        split <;> rfl
    rw [update_cons, ih, bound]
    simp

/-- Reading a written value keeps whether it counts as present. -/
theorem isTruthy_reread (v : Value) : (reread v).isTruthy = v.isTruthy := by
  cases v with
  | string s =>
    have same : List.isEmpty (Text.paired s) = List.isEmpty s := by
      rw [Bool.eq_iff_iff, List.isEmpty_iff, List.isEmpty_iff, Text.paired_eq_nil]
    simp only [reread, Value.isTruthy, same]
  | array items => cases items <;> rfl
  | object fields =>
    simp only [reread, Value.isTruthy, ofPairs, isEmpty_update, rereadFields_eq_map]
    cases fields <;> rfl
  | _ => rfl

theorem reread_orElse (v other : Value) :
    reread (v.orElse other) = (reread v).orElse (reread other) := by
  rw [Value.orElse, Value.orElse, isTruthy_reread]
  split <;> rfl

end Json

open Json

section Decoding

theorem mapM_decode (events : List EventConfig) :
    (events.map EventConfig.encode).mapM EventConfig.decode = .ok events := by
  induction events with
  | nil => rfl
  | cons event rest ih =>
    rw [List.map_cons, List.mapM_cons, EventConfig.decode_encode, ih]
    rfl

theorem CustomerConfig.decodeEvents_encode (events : List EventConfig) :
    decodeEvents (.array (events.map EventConfig.encode)) = .ok events := by
  cases events with
  | nil => rfl
  | cons event rest => exact mapM_decode (event :: rest)

/-- Encoding and decoding a configuration undo each other. -/
theorem CustomerConfig.decode_encode (config : CustomerConfig) :
    decode config.encode = .ok config := by
  obtain ⟨customer, container, events, version⟩ := config
  have events' : decodeEvents (Value.fieldOf
      [("customerId", customer), ("containerId", container),
        ("events", .array (events.map EventConfig.encode)), ("version", version)] "events") =
      .ok events := decodeEvents_encode events
  simp only [encode, decode]
  rw [events']
  rfl

end Decoding

section Rereading

/-- The mappings that are read where mappings were written. -/
def rereadMappings (mappings : PlatformMappings) : PlatformMappings :=
  ofPairs (mappings.map fun entry => (Text.paired entry.1, rereadObject entry.2))

/-- The event that is read where an event was written. -/
def EventConfig.reread (event : EventConfig) : EventConfig :=
  { name := Json.reread event.name
    mappings := rereadMappings event.mappings }

/-- The configuration that is read where a configuration was written. -/
def CustomerConfig.reread (config : CustomerConfig) : CustomerConfig :=
  { customerId := Json.reread config.customerId
    containerId := Json.reread config.containerId
    events := config.events.map EventConfig.reread
    version := Json.reread config.version }

theorem rereadObject_encodeMappings (mappings : PlatformMappings) :
    rereadObject (encodeMappings mappings) = encodeMappings (rereadMappings mappings) := by
  have entries : rereadFields (encodeMappings mappings) =
      (mappings.map fun entry => (Text.paired entry.1, rereadObject entry.2)).map
        fun entry => (entry.1, Value.object entry.2) := by
    rw [rereadFields_eq_map, encodeMappings, List.map_map, List.map_map]
    rfl
  rw [rereadObject, entries]
  exact ofPairs_map (e := id) (fun _ _ => rfl) Value.object _

/-- Reading a written value and encoding an event change places. -/
theorem EventConfig.reread_encode (event : EventConfig) :
    Json.reread event.encode = event.reread.encode := by
  have mappings : Json.reread (.object (encodeMappings event.mappings)) =
      .object (encodeMappings (rereadMappings event.mappings)) := by
    rw [reread_object, rereadObject_encodeMappings]
  rw [encode, encode, reread_object, rereadObject, rereadFields, rereadFields, rereadFields,
    mappings]
  rfl

theorem map_reread_encode (events : List EventConfig) :
    rereadItems (events.map EventConfig.encode) =
      (events.map EventConfig.reread).map EventConfig.encode := by
  rw [rereadItems_eq_map, List.map_map, List.map_map]
  exact List.map_congr_left fun event _ => event.reread_encode

/-- Reading a written value and encoding a configuration change places. -/
theorem CustomerConfig.reread_encode (config : CustomerConfig) :
    Json.reread config.encode = config.reread.encode := by
  have events : Json.reread (.array (config.events.map EventConfig.encode)) =
      .array ((config.events.map EventConfig.reread).map EventConfig.encode) := by
    rw [Json.reread, map_reread_encode]
  rw [encode, encode, reread_object, rereadObject, rereadFields, rereadFields, rereadFields,
    rereadFields, rereadFields, events]
  rfl

/-- The text of a legible configuration is read as the configuration with paired strings. -/
theorem CustomerConfig.ofText_write {layout : Layout} (unsorted : layout.sorted = false)
    (escaped : layout.escaped = true) {config : CustomerConfig}
    (legible : Legible Limits.standard Limits.standard.nesting config.encode) :
    ofText (config.write layout) = .ok config.reread := by
  rw [ofText, write, parse_print unsorted escaped legible, decodeReading, reread_encode,
    decode_encode]
  rfl

/-- A configuration is legible if what it is made of is. -/
theorem CustomerConfig.legible_encode {limits : Limits} {room : Nat} {config : CustomerConfig}
    (customer : Legible limits (room + 4) config.customerId)
    (container : Legible limits (room + 4) config.containerId)
    (version : Legible limits (room + 4) config.version)
    (names : ∀ event ∈ config.events, Legible limits (room + 2) event.name)
    (paths : ∀ event ∈ config.events, ∀ entry ∈ event.mappings, ∀ field ∈ entry.2,
      Legible limits room field.2) : Legible limits (room + 5) config.encode := by
  have mappings (event : EventConfig) (member : event ∈ config.events) :
      Legible limits (room + 2) (.object (encodeMappings event.mappings)) := by
    refine .object _ _ fun field isField => ?_
    obtain ⟨entry, isEntry, rfl⟩ := List.mem_map.mp isField
    exact .object _ _ (paths event member entry isEntry)
  have events : Legible limits (room + 4) (.array (config.events.map EventConfig.encode)) := by
    refine .array _ _ fun item isItem => ?_
    obtain ⟨event, member, rfl⟩ := List.mem_map.mp isItem
    refine .object _ _ fun field isField => ?_
    simp only [List.mem_cons, List.not_mem_nil, or_false] at isField
    rcases isField with rfl | rfl
    · exact names event member
    · exact mappings event member
  refine .object _ _ fun field isField => ?_
  simp only [List.mem_cons, List.not_mem_nil, or_false] at isField
  rcases isField with rfl | rfl | rfl | rfl
  · exact customer
  · exact container
  · exact events
  · exact version

end Rereading

end ConversionRelay
