import ConversionRelay.Proofs.Config.Stored
import ConversionRelay.Proofs.Json.Document
/-!
Configurations that go through their wire format and their text.

A configuration that is decoded from a document is made of pieces of that document, so that its own
wire format is a document within the same limits. Decoding and encoding lose nothing of it. Writing
it and reading it back joins the halves of surrogate pairs that stand next to each other, and
changes nothing else; once they are joined, nothing changes any more.

Main statements: a configuration that was decoded comes back from its text
(`CustomerConfig.ofText_write_of_decode`), and an event of a configuration that was read maps no
platform twice (`CustomerConfig.distinct_of_ofText`).
-/
namespace ConversionRelay

open OrderedMap Json

variable {limits : Limits} {room : Nat}

section Decoding

theorem Json.Document.lookup? {fields : Fields} {key : Text} {v : Value}
    (document : Document limits (room + 1) (.object fields))
    (bound : OrderedMap.lookup? fields key = some v) : Document limits room v := by
  cases document with
  | object room fields distinct each =>
    obtain ⟨field, member, rfl⟩ := List.mem_map.mp (mem_values_of_lookup? bound)
    exact each field member

/-- The mappings of an event are among the fields that they are read from, in their order. -/
theorem encodeMappings_sublist {fields : Fields} {mappings : PlatformMappings}
    (read : mappingsOf fields = .ok mappings) : (encodeMappings mappings).Sublist fields := by
  induction fields using mappingsOf.induct generalizing mappings with
  | case1 =>
    cases read
    exact .slnil
  | case2 platform rest ih =>
    rw [mappingsOf] at read
    exact (ih read).cons _
  | case3 platform mapping rest ih =>
    rw [mappingsOf] at read
    cases others : mappingsOf rest with
    | error problem =>
      rw [others] at read
      cases read
    | ok found =>
      rw [others] at read
      cases read
      exact (ih others).cons_cons _
  | case4 platform other rest notNull notObject =>
    rw [mappingsOf] at read
    · cases read
    · exact notNull
    · exact notObject

/-- What an event is made of, as its document holds it. -/
structure EventConfig.Documented (limits : Limits) (room : Nat) (event : EventConfig) : Prop where
  name : Document limits (room + 2) event.name
  mappings : Document limits (room + 2) (.object (encodeMappings event.mappings))

theorem EventConfig.documented_of_decode {item : Value} {event : EventConfig}
    (document : Document limits (room + 3) item) (decoded : decode item = .ok event) :
    event.Documented limits room := by
  unfold decode at decoded
  split at decoded
  · rename_i fields
    split at decoded
    · rename_i name named
      have nothing : Document limits (room + 2) (.object (encodeMappings [])) :=
        .object _ [] List.nodup_nil (List.forall_mem_nil _)
      unfold ofMappings at decoded
      split at decoded
      · split at decoded
        · rename_i present mappings is
          cases found : mappingsOf mappings with
          | error problem =>
            rw [found] at decoded
            cases decoded
          | ok platforms =>
            rw [found] at decoded
            cases decoded
            have bound := Value.lookup?_of_fieldOf (by simp) is
            refine ⟨document.lookup? named, ?_⟩
            have within := encodeMappings_sublist found
            cases document.lookup? bound with
            | object room fields distinct each =>
              exact .object _ _ (List.Nodup.sublist (within.map Prod.fst) distinct)
                fun field member => each field (within.subset member)
        · cases decoded
      · cases decoded
        exact ⟨document.lookup? named, nothing⟩
    · cases decoded
  · cases decoded

theorem EventConfig.Documented.encode {event : EventConfig} (made : event.Documented limits room) :
    Document limits (room + 3) event.encode := by
  have distinct : ([Text.ofString "eventName", Text.ofString "platformMappings"]).Nodup := by decide
  refine .object _ _ distinct fun field member => ?_
  simp only [List.mem_cons, List.not_mem_nil, or_false] at member
  rcases member with rfl | rfl
  · exact made.name
  · exact made.mappings

theorem documented_of_mapM {items : List Value} {events : List EventConfig}
    (documents : ∀ item ∈ items, Document limits (room + 3) item)
    (decoded : items.mapM EventConfig.decode = .ok events) :
    ∀ event ∈ events, event.Documented limits room := by
  induction items generalizing events with
  | nil =>
    cases decoded
    exact List.forall_mem_nil _
  | cons item rest ih =>
    obtain ⟨here, later⟩ := List.forall_mem_cons.mp documents
    rw [List.mapM_cons] at decoded
    cases first : EventConfig.decode item with
    | error problem =>
      rw [first] at decoded
      cases decoded
    | ok event =>
      cases others : rest.mapM EventConfig.decode with
      | error problem =>
        rw [first, others] at decoded
        cases decoded
      | ok found =>
        rw [first, others] at decoded
        cases decoded
        exact List.forall_mem_cons.mpr
          ⟨EventConfig.documented_of_decode here first, ih later others⟩

theorem CustomerConfig.documented_of_decodeEvents {value : Value} {events : List EventConfig}
    (document : Document limits (room + 4) value) (decoded : decodeEvents value = .ok events) :
    ∀ event ∈ events, event.Documented limits room := by
  unfold decodeEvents at decoded
  split at decoded
  · split at decoded
    · cases document with
      | array room items each => exact documented_of_mapM each decoded
    · cases decoded
  · cases decoded
    exact List.forall_mem_nil _

theorem Json.Document.fieldOf {fields : Fields} (key : Text)
    (document : Document limits (room + 1) (.object fields)) :
    Document limits room (Value.fieldOf fields key) := by
  unfold Value.fieldOf
  cases bound : OrderedMap.lookup? fields key with
  | none => exact .null room
  | some v => exact document.lookup? bound

/-- A configuration that was decoded from a document is a document within the same limits. -/
theorem CustomerConfig.document_encode {document : Value} {config : CustomerConfig}
    (readable : Document limits (room + 5) document) (decoded : decode document = .ok config) :
    Document limits (room + 5) config.encode := by
  unfold decode at decoded
  split at decoded
  · rename_i fields
    split at decoded
    · cases decoded
    rename_i customer owner
    cases found : decodeEvents (Value.fieldOf fields "events") with
    | error problem =>
      rw [found] at decoded
      cases decoded
    | ok events =>
      rw [found] at decoded
      cases decoded
      have made := documented_of_decodeEvents (readable.fieldOf "events") found
      have own : Document limits (room + 4) customer := readable.lookup? owner
      have distinct : ([Text.ofString "customerId", Text.ofString "containerId",
          Text.ofString "events", Text.ofString "version"]).Nodup := by decide
      refine .object _ _ distinct fun field member => ?_
      simp only [List.mem_cons, List.not_mem_nil, or_false] at member
      rcases member with rfl | rfl | rfl | rfl
      · exact own
      · cases container : OrderedMap.lookup? fields "containerId" with
        | none => exact own
        | some v => exact readable.lookup? container
      · exact .array _ _ (List.forall_mem_map.mpr fun event member => (made event member).encode)
      · cases version : OrderedMap.lookup? fields "version" with
        | none => exact .string _ _
        | some v => exact readable.lookup? version
  · cases decoded

/-- The mappings of an event stand in the document of its configuration. -/
theorem CustomerConfig.document_mappings {config : CustomerConfig}
    (document : Document limits room config.encode) {event : EventConfig}
    (member : event ∈ config.events) :
    ∃ inner, Document limits inner (.object (encodeMappings event.mappings)) := by
  cases document with
  | object room fields _ each =>
    cases each ("events", .array (config.events.map EventConfig.encode)) (by simp) with
    | array room items each =>
      cases each event.encode (List.mem_map_of_mem member) with
      | object room fields _ each =>
        exact ⟨_, each ("platformMappings", .object (encodeMappings event.mappings)) (by simp)⟩

/-- A configuration that was read is a document within the limits of the reader. -/
theorem CustomerConfig.document_of_ofText {text : Text} {config : CustomerConfig}
    (reads : ofText text = .ok config) :
    Document Limits.standard Limits.standard.nesting config.encode := by
  unfold ofText decodeReading at reads
  split at reads
  · rename_i document parsed
    cases decoded : decode document with
    | error problem =>
      rw [decoded] at reads
      cases reads
    | ok found =>
      rw [decoded] at reads
      cases reads
      have readable : Document Limits.standard Limits.standard.nesting document :=
        document_of_parse parsed
      exact document_encode readable decoded
  · cases reads
  · cases reads

/-- An event of a configuration that was read maps no platform twice. -/
theorem CustomerConfig.distinct_of_ofText {text : Text} {config : CustomerConfig}
    (reads : ofText text = .ok config) {event : EventConfig} (member : event ∈ config.events) :
    Distinct event.mappings := by
  have keysSame : keys (encodeMappings event.mappings) = keys event.mappings := by
    rw [encodeMappings, keys, List.map_map]
    rfl
  obtain ⟨_, document⟩ := document_mappings (document_of_ofText reads) member
  cases document with
  | object room fields distinct _ =>
    rw [Distinct, keysSame] at distinct
    exact distinct

/-- An event of a configuration that was read maps no field of a platform twice. -/
theorem CustomerConfig.distinct_mapping_of_ofText {text : Text} {config : CustomerConfig}
    (reads : ofText text = .ok config) {event : EventConfig} (member : event ∈ config.events)
    {platform : Text} {mapping : Fields} (mapped : (platform, mapping) ∈ event.mappings) :
    Distinct mapping := by
  obtain ⟨_, document⟩ := document_mappings (document_of_ofText reads) member
  cases document with
  | object room fields _ each =>
    cases each (platform, .object mapping) (List.mem_map_of_mem mapped) with
    | object room fields distinct _ => exact distinct

end Decoding

section Texts

/-- The layouts that a configuration may be written in: one line, or indented by any width. -/
def WireLayout (layout : Layout) : Prop := layout = .line ∨ ∃ width, layout = .indented width

theorem WireLayout.plain {layout : Layout} (wire : WireLayout layout) :
    layout.sorted = false ∧ layout.escaped = true := by
  obtain rfl | ⟨width, rfl⟩ := wire
  · exact ⟨rfl, rfl⟩
  · exact ⟨rfl, rfl⟩

theorem CustomerConfig.encode_injective {a b : CustomerConfig} (same : a.encode = b.encode) :
    a = b := by
  have decoded := decode_encode a
  rw [same, decode_encode b] at decoded
  exact (Except.ok.inj decoded).symm

/-- The text of a configuration whose wire format is a document is read as the configuration with
paired strings, and the text of that one as itself. -/
theorem CustomerConfig.ofText_write_of_document {layout : Layout} (wire : WireLayout layout)
    {config : CustomerConfig}
    (readable : Document Limits.standard Limits.standard.nesting config.encode) :
    ofText (config.write layout) = .ok config.reread ∧
      ofText (config.reread.write layout) = .ok config.reread := by
  obtain ⟨unsorted, escaped⟩ := wire.plain
  have again : Document Limits.standard Limits.standard.nesting config.reread.encode := by
    rw [← reread_encode]
    exact readable.reread
  have settled : config.reread.reread = config.reread := by
    refine encode_injective ?_
    rw [← reread_encode]
    refine again.reread_eq_self ?_
    rw [← reread_encode]
    exact readable.halvesApart_reread
  refine ⟨ofText_write unsorted escaped readable.legible, ?_⟩
  rw [ofText_write unsorted escaped again.legible, settled]

/-- A configuration that was decoded from a document is decoded again from its wire format, and is
read again from its text, with its strings paired, in every layout and any number of times. If it
has no halves of surrogate pairs to join, it comes back as it was. -/
theorem CustomerConfig.ofText_write_of_decode {document : Value} {config : CustomerConfig}
    (readable : Document Limits.standard Limits.standard.nesting document)
    (decoded : decode document = .ok config) :
    decode config.encode = .ok config ∧
      (∀ layout, WireLayout layout → ofText (config.write layout) = .ok config.reread ∧
        ofText (config.reread.write layout) = .ok config.reread) ∧
      config.reread.encode = Json.reread config.encode ∧
      (HalvesApart config.encode → config.reread = config) := by
  have within : Document Limits.standard Limits.standard.nesting config.encode :=
    document_encode readable decoded
  refine ⟨decode_encode config, fun layout wire => ofText_write_of_document wire within,
    config.reread_encode.symm, fun apart => encode_injective ?_⟩
  rw [← reread_encode]
  exact within.reread_eq_self apart

/-- An event that is named by a number, with a platform that is null, makes the way to text and
back: what was read is the configuration that was written. -/
theorem CustomerConfig.ofText_write_of_decode_numbered :
    let document : Value := .object [("customerId", .string "acme"),
      ("events", .array [.object [("eventName", .int 7), ("platformMappings", .object
        [("ga4", .null), ("facebook", .object [("value", .string "total")])])]])]
    let config : CustomerConfig :=
      { customerId := .string "acme"
        containerId := .string "acme"
        events := [⟨.int 7, [("facebook", [("value", .string "total")])]⟩]
        version := .string "1.0.0" }
    decode document = .ok config ∧ ofText (config.write (.indented 0)) = .ok config.reread ∧
      ofText config.stored = .ok config.reread ∧ config.reread = config := by
  intro document config
  have mapping : Document Limits.standard 982 (.object [("value", .string "total")]) :=
    .object 981 _ (by decide) (List.forall_mem_singleton.mpr (.string 981 _))
  have platforms : Document Limits.standard 983
      (.object [("ga4", .null), ("facebook", .object [("value", .string "total")])]) :=
    .object 982 _ (by decide) (List.forall_mem_cons.mpr
      ⟨.null 982, List.forall_mem_singleton.mpr mapping⟩)
  have event : Document Limits.standard 984 (.object [("eventName", .int 7), ("platformMappings",
      .object [("ga4", .null), ("facebook", .object [("value", .string "total")])])]) :=
    .object 983 _ (by decide) (List.forall_mem_cons.mpr
      ⟨.int 983 7 (by decide), List.forall_mem_singleton.mpr platforms⟩)
  have readable : Document Limits.standard Limits.standard.nesting document :=
    .object 985 _ (by decide) (List.forall_mem_cons.mpr ⟨.string 985 _,
      List.forall_mem_singleton.mpr (.array 984 _ (List.forall_mem_singleton.mpr event))⟩)
  have decoded : decode document = .ok config := rfl
  obtain ⟨_, back, _, _⟩ := ofText_write_of_decode readable decoded
  exact ⟨decoded, (back _ (.inr ⟨0, rfl⟩)).1, (back _ (.inl rfl)).1, rfl⟩

/-- A customer whose name spells a character by two halves is read back under the name that has the
character itself. -/
theorem CustomerConfig.ofText_write_halves :
    let halves : Text := [.surrogate 61, .surrogate 1536]
    let document : Value := .object [("customerId", .string halves)]
    Document Limits.standard Limits.standard.nesting document ∧ ∃ config back,
      decode document = .ok config ∧ ofText config.stored = .ok back ∧
        config.customerId = .string halves ∧ back.customerId = .string "😀" ∧
        ofText config.stored ≠ .ok config := by
  intro halves document
  have readable : Document Limits.standard Limits.standard.nesting document :=
    .object 985 _ (by decide) (List.forall_mem_singleton.mpr (.string 985 _))
  let config : CustomerConfig :=
    { customerId := .string halves
      containerId := .string halves
      events := []
      version := .string "1.0.0" }
  have decoded : decode document = .ok config := rfl
  have back : ofText config.stored = .ok config.reread :=
    (ofText_write_of_document (.inl rfl) (document_encode readable decoded)).1
  have joined : Text.paired halves = Text.ofString "😀" := by decide +kernel
  have differ : Text.paired halves ≠ halves := by decide +kernel
  refine ⟨readable, config, config.reread, decoded, back, rfl, congrArg Value.string joined, ?_⟩
  rw [back]
  intro same
  have customer := congrArg CustomerConfig.customerId (Except.ok.inj same)
  exact differ (Value.string.inj customer)

/-- The configuration that maps one event of a customer to one platform. -/
def CustomerConfig.single (customer event platform : Text) (mapping : Fields) : CustomerConfig where
  customerId := .string customer
  containerId := .string customer
  events := [⟨.string event, [(platform, mapping)]⟩]
  version := .string currentVersion

/-- The configuration of a single platform is read back if its paths are texts, whatever its fields
are called. -/
theorem CustomerConfig.ofText_single (customer event platform : Text) {mapping : Fields}
    (distinct : Distinct mapping) (texts : ∀ field ∈ mapping, ∃ path, field.2 = .string path) :
    ofText (single customer event platform mapping).stored =
      .ok (single customer event platform mapping).reread := by
  have paths : Document Limits.standard 982 (.object mapping) := by
    apply Document.object 981 mapping distinct
    intro field member
    obtain ⟨path, is⟩ := texts field member
    rw [is]
    exact .string 981 path
  have mapped : (EventConfig.mk (.string event) [(platform, mapping)]).Documented
      Limits.standard 981 :=
    { name := .string 983 event
      mappings := .object 982 _ (List.nodup_singleton _) (List.forall_mem_singleton.mpr paths) }
  have named : ([Text.ofString "customerId", "containerId", "events", "version"]).Nodup := by
    decide
  have readable : Document Limits.standard Limits.standard.nesting
      (single customer event platform mapping).encode := by
    refine .object 985 _ named fun field member => ?_
    simp only [List.mem_cons, List.not_mem_nil, or_false] at member
    rcases member with rfl | rfl | rfl | rfl
    · exact .string 985 customer
    · exact .string 985 customer
    · exact .array 984 _ (List.forall_mem_singleton.mpr mapped.encode)
    · exact .string 985 currentVersion
  exact (ofText_write_of_document (.inl rfl) readable).1

end Texts

end ConversionRelay
