import ConversionRelay.Proofs.Json.Canonical
import ConversionRelay.Proofs.Json.Printed
import ConversionRelay.Proofs.Run
import ConversionRelay.Proofs.Sender.Basic
/-!
What the log tells of a payload.

A log sender leaves one line for each payload, of visible characters and blanks only. The line is
read back as the platform with the payload, its fields in order, as far as texts allow: halves of a
surrogate pair that stand next to each other come back as the character that they encode. Since the
fields of all objects are sorted, the order that they came in leaves no trace in the line.

Main statement: a line holds the platform and the payload, and rearranged fields make the same line
(`LogSender.line_recorded`).
-/
namespace ConversionRelay.LogSender

open OrderedMap Json Value

variable {ω : Type}

/-- What a line is written of. -/
def record (platform : Platform) (payload : Value) : Value :=
  .object [("platform", .string platform.key), ("payload", payload)]

/-- In a line, the payload stands before the platform. -/
theorem ordered_record (platform : Platform) (payload : Value) :
    ordered (record platform payload) =
      .object [("payload", ordered payload), ("platform", .string platform.key)] := by
  have distinct : ([Text.ofString "platform", "payload"]).Nodup := by decide
  have before : Text.le "payload" "platform" = true := by decide
  refine congrArg Value.object (byKey_eq_of_perm distinct (.swap _ _ _) ?_)
  exact List.pairwise_pair.mpr before

/-- All that payloads have besides the fields themselves: the name and the time of the event, and
the fields as a whole. -/
def frame (time : Instant) (event : Value) (fields : Fields) : Fields :=
  [("event_name", event), ("event_time", .int time.unixSeconds), ("params", .object fields),
    ("payload", .object fields)]

theorem mem_payload {platform : Platform} {time : Instant} {event : Value} {fields : Fields}
    {field : Text × Value} (member : field ∈ payload platform time event fields) :
    field ∈ frame time event fields ∨ field ∈ fields := by
  have pair {second : Text × Value} (is : field ∈ ([("event_name", event), second] : Fields))
      (framed : second ∈ frame time event fields) : field ∈ frame time event fields := by
    rcases List.mem_cons.mp is with rfl | last
    · exact List.mem_cons_self
    · rwa [List.mem_singleton.mp last]
  cases platform with
  | facebook => exact (mem_of_mem_update member).imp_left fun head => pair head (.tail _ (.head _))
  | ga4 => exact .inl (pair member (.tail _ (.tail _ (.head _))))
  | googleAds => exact .inl (pair member (.tail _ (.tail _ (.tail _ (.head _)))))

/-- The values of a payload have a property if those that it is made of do. -/
theorem forall_payload {P : Value → Prop} {platform : Platform} {time : Instant} {event : Value}
    {fields : Fields} (named : P event) (timed : P (.int time.unixSeconds))
    (whole : P (.object fields)) (each : ∀ field ∈ fields, P field.2) :
    ∀ field ∈ payload platform time event fields, P field.2 := by
  intro field member
  rcases mem_payload member with framed | own
  · simp only [frame, List.mem_cons, List.not_mem_nil, or_false] at framed
    rcases framed with rfl | rfl | rfl | rfl
    · exact named
    · exact timed
    · exact whole
    · exact whole
  · exact each field own

/-- A line is written of a document if the event and its fields are documents that leave room for
it. -/
theorem document_record {limits : Limits} {room : Nat} (platform : Platform) (time : Instant)
    {event : Value} {fields : Fields}
    (clock : (Decimal.ofNat time.unixSeconds.natAbs).length ≤ limits.digits)
    (named : Document limits (room + 1) event)
    (given : Document limits (room + 1) (.object fields)) : Document limits (room + 3)
      (record platform (.object (payload platform time event fields))) := by
  have within : ∀ field ∈ fields, Document limits (room + 1) field.2 := by
    cases given with
    | object room fields _ each => exact fun field own => (each field own).mono (Nat.le_succ room)
  have built : Document limits (room + 2) (.object (payload platform time event fields)) :=
    .object _ _ (distinct_payload platform time event fields)
      (forall_payload named (.int _ _ clock) given within)
  have distinct : ([Text.ofString "platform", "payload"]).Nodup := by decide
  exact .object _ _ distinct (List.forall_mem_cons.mpr
    ⟨.string _ _, List.forall_mem_singleton.mpr built⟩)

/-- What a line is written of has no halves to join if the event and its fields have none. -/
theorem halvesApart_record (platform : Platform) (time : Instant) {event : Value} {fields : Fields}
    (named : HalvesApart event) (given : HalvesApart (.object fields)) :
    HalvesApart (record platform (.object (payload platform time event fields))) := by
  have plain : ∀ key ∈ keys (frame time event fields), key.HalvesApart :=
    show ∀ key ∈ [Text.ofString "event_name", "event_time", "params", "payload"],
      key.HalvesApart by decide
  obtain ⟨names, within⟩ : (∀ field ∈ fields, field.1.HalvesApart) ∧
      ∀ field ∈ fields, HalvesApart field.2 := by
    cases given with
    | object fields names each => exact ⟨names, each⟩
  have built : HalvesApart (.object (payload platform time event fields)) := by
    refine .object _ (fun field member => ?_) (forall_payload named (.int _) given within)
    rcases mem_payload member with framed | own
    · exact plain field.1 (List.mem_map_of_mem framed)
    · exact names field own
  have known : platform.key.HalvesApart := by cases platform <;> decide
  have outer : Text.HalvesApart "platform" ∧ Text.HalvesApart "payload" := by decide
  exact .object _
    (List.forall_mem_cons.mpr ⟨outer.1, List.forall_mem_singleton.mpr outer.2⟩)
    (List.forall_mem_cons.mpr ⟨.string _ known, List.forall_mem_singleton.mpr built⟩)

/-- Of an object with two fields, only the order in the second value matters. -/
theorem ordered_second (first : Text × Value) (key : Text) {v w : Value}
    (same : ordered v = ordered w) :
    ordered (.object [first, (key, v)]) = ordered (.object [first, (key, w)]) := by
  simp only [ordered, orderedFields, same]

/-- Rearranged fields make payloads that are ordered alike. -/
theorem ordered_payload (platform : Platform) (time : Instant) (event : Value)
    {fields others : Fields} (rearranged : Rearranged (.object fields) (.object others)) :
    ordered (.object (payload platform time event fields)) =
      ordered (.object (payload platform time event others)) := by
  have same := ordered_congr rearranged
  cases platform with
  | facebook =>
    have distinct := rearranged.distinct
    have distinct' := rearranged.symm.distinct
    refine (ordered_object_iff (distinct_payload .facebook time event fields)
      (distinct_payload .facebook time event others)).mpr fun key => ?_
    change (lookup? (update _ fields) key).map ordered = (lookup? (update _ others) key).map ordered
    rw [lookup?_update distinct, lookup?_update distinct', Option.map_or, Option.map_or,
      (ordered_object_iff distinct distinct').mp same key]
  | ga4 => exact ordered_second _ _ same
  | googleAds => exact ordered_second _ _ same

/-- Payloads that are ordered alike make one line. -/
theorem line_congr {platform : Platform} {payload other : Value}
    (same : ordered payload = ordered other) : line platform payload = line platform other := by
  have records : ordered (record platform payload) = ordered (record platform other) := by
    rw [ordered_record, ordered_record, same]
  exact print_sorted_congr rfl records

/-- A log sender takes every payload and leaves one line for it, of visible characters and blanks.
The line is read back as the platform with the payload, its fields in order and its texts paired; so
it is read back as what it was written of, up to that order, if no text has halves to join. Fields
that are rearranged leave the same line. -/
theorem line_recorded (platform : Platform) (event : Value) (fields : Fields) (s : Session ω) :
    let payload := fun fields => Value.object (payload platform s.now event fields)
    let written := line platform (payload fields)
    let original := record platform (payload fields)
    ((sender platform).deliver event fields).outcome s = (.ok (.taken platform),
      { s with journal := s.journal ++ [.logged ⟨.info, .senders, written⟩] }) ∧
    Shown written ∧
    (∀ limits, Document limits limits.nesting original →
      parseWithin limits written = .ok (reread (ordered original)) ∧
      Rearranged original (ordered original) ∧
      (HalvesApart original → ∃ read, parseWithin limits written = .ok read ∧
        Rearranged original read ∧ original.equal read = true)) ∧
    ∀ others, Rearranged (.object fields) (.object others) →
      line platform (payload others) = written := by
  intro payload written original
  refine ⟨rfl, shown_print rfl rfl _, fun limits document => ?_, fun others rearranged => ?_⟩
  · have read : parseWithin limits written = .ok (reread (ordered original)) :=
      parseWithin_print_sorted rfl rfl document
    have rearranged := document.rearranged_ordered
    refine ⟨read, rearranged, fun apart => ⟨ordered original, ?_, rearranged, ?_⟩⟩
    · rw [read, document.ordered.reread_eq_self apart.ordered]
    · exact rearranged.same_eq_true
  · exact line_congr (ordered_payload platform s.now event rearranged).symm

/-- Fields that are nested in two orders leave one line, which is read back as the payload. -/
theorem line_recorded_nested :
    let fields : Fields :=
      [("value", .int 5), ("item", .object [("name", .string "tea"), ("id", .int 7)])]
    let others : Fields :=
      [("item", .object [("id", .int 7), ("name", .string "tea")]), ("value", .int 5)]
    let built := fun fields => Value.object (payload .facebook ⟨0, 0⟩ (.string "lead") fields)
    (∃ read, parse (line .facebook (built fields)) = .ok read ∧
      (record .facebook (built fields)).equal read = true) ∧
    line .facebook (built others) = line .facebook (built fields) := by
  intro fields others built
  obtain ⟨_, _, reads, same⟩ :=
    line_recorded .facebook (.string "lead") fields (Session.initial ())
  have item : Document Limits.standard 983
      (.object [("name", .string "tea"), ("id", .int 7)]) :=
    .object 982 _ (by decide) (List.forall_mem_cons.mpr
      ⟨.string 982 _, List.forall_mem_singleton.mpr (.int 982 7 (by decide))⟩)
  have given : Document Limits.standard 984 (.object fields) :=
    .object 983 _ (by decide) (List.forall_mem_cons.mpr
      ⟨.int 983 5 (by decide), List.forall_mem_singleton.mpr item⟩)
  have document : Document Limits.standard Limits.standard.nesting
      (record .facebook (built fields)) :=
    document_record .facebook _ (by decide +kernel) (.string 984 _) given
  have itemApart : HalvesApart (.object [("name", .string "tea"), ("id", .int 7)]) :=
    .object _ (by decide) (List.forall_mem_cons.mpr
      ⟨.string _ (by decide), List.forall_mem_singleton.mpr (.int 7)⟩)
  have apart : HalvesApart (record .facebook (built fields)) :=
    halvesApart_record .facebook _ (.string _ (by decide)) (.object _ (by decide)
      (List.forall_mem_cons.mpr ⟨.int 5, List.forall_mem_singleton.mpr itemApart⟩))
  have rearranged : Rearranged (.object fields) (.object others) :=
    .swapped (by decide) (.plain rfl) (.swapped (by decide) (.plain rfl) (.plain rfl))
  obtain ⟨_, _, back⟩ := reads Limits.standard document
  obtain ⟨read, parsed, _, equal⟩ := back apart
  exact ⟨⟨read, parsed, equal⟩, same others rearranged⟩

/-- A text that spells a character by two halves is read back as the character itself, which is not
equal to it. -/
theorem line_joins_halves :
    let halves : Text := [.surrogate 61, .surrogate 1536]
    let fields : Fields := [("name", .string halves)]
    let payload : Value := .object [("event_name", .string "lead"), ("params", .object fields)]
    let read : Value := .object [
      ("payload", .object [
        ("event_name", .string "lead"),
        ("params", .object [("name", .string "😀")])]),
      ("platform", .string "ga4")]
    ((sender .ga4).deliver (.string "lead") fields).outcome (Session.initial ()) =
        (.ok (.taken .ga4), { Session.initial () with
          journal := [.logged ⟨.info, .senders, line .ga4 payload⟩] }) ∧
      parse (line .ga4 payload) = .ok read ∧ (record .ga4 payload).equal read = false := by
  intro halves fields payload read
  have given : Document Limits.standard 984 (.object fields) :=
    .object 983 _ (by decide) (List.forall_mem_singleton.mpr (.string 983 _))
  have document : Document Limits.standard Limits.standard.nesting (record .ga4 payload) :=
    document_record .ga4 ⟨0, 0⟩ (by decide +kernel) (.string 984 _) given
  have parsed : parse (line .ga4 payload) = .ok (reread (ordered (record .ga4 payload))) :=
    parseWithin_print_sorted rfl rfl document
  have inOrder : ordered payload = payload := by
    have before : Text.le "event_name" "params" = true := by decide
    have inside : ordered (.object fields) = .object fields :=
      ordered_eq_self (List.pairwise_singleton _ _) (List.forall_mem_singleton.mpr rfl)
    exact ordered_eq_self (List.pairwise_pair.mpr before)
      (List.forall_mem_cons.mpr ⟨rfl, List.forall_mem_singleton.mpr inside⟩)
  have joined : reread (.object [("payload", payload), ("platform", .string "ga4")]) = read := by
    have pair : Text.paired halves = "😀" := by decide +kernel
    -- One level at a time, since the value as a whole is too deep to be reduced at once.
    have atTop (v : Value) : reread (.object [("payload", v), ("platform", .string "ga4")]) =
        .object [("payload", reread v), ("platform", .string "ga4")] := rfl
    have atPayload (v : Value) :
        reread (.object [("event_name", .string "lead"), ("params", v)]) =
          .object [("event_name", .string "lead"), ("params", reread v)] := rfl
    have atFields (s : Text) : reread (.object [("name", .string s)]) =
        .object [("name", .string (Text.paired s))] := rfl
    rw [atTop, atPayload, atFields, pair]
  rw [ordered_record, inOrder] at parsed
  exact ⟨rfl, parsed.trans (congrArg Except.ok joined), by decide +kernel⟩

end ConversionRelay.LogSender
