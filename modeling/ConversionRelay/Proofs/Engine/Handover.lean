import ConversionRelay.Proofs.DataLayer.Addresses
import ConversionRelay.Proofs.Engine.Status
/-!
Which fields are handed to a sender, and what the log senders make of them.

A field is left out if its path leads nowhere or to null, and for no other reason. All other fields
are handed over in the order of the mapping with what their paths lead to, be it zero, false or an
empty text. A log sender puts them into its payload as they are, under a key of their own or over
the name and the time of the event, and delivers it.

Main statement: `Engine.process_hands_over`.
-/
namespace ConversionRelay

open OrderedMap Run

namespace DataLayer

section Missing

/-- A path leads to nothing in a data layer: it is empty, the data layer does not count as present,
the path leads to null, or there is nothing for one of its segments. -/
inductive Missing (layer : Value) (path : Text) : Prop
  | empty (is : path = [])
  | bare (absent : layer.isTruthy = false)
  | null (reaches : Reaches layer (Text.cut dot path) .null)
  | nowhere {before after : List Text} {segment : Text} {current : Value}
      (is : Text.cut dot path = before ++ segment :: after) (reaches : Reaches layer before current)
      (lacks : Lacks current segment)

variable {layer v : Value} {path : Text} {segments : List Text}

/-- A walk that ends at null either reaches it or finds nothing for one of the segments. -/
theorem reaches_or_lacks (walks : walk layer segments = .ok v) :
    Reaches layer segments v ∨ ∃ before segment after current,
      segments = before ++ segment :: after ∧ Reaches layer before current ∧
        Lacks current segment := by
  induction segments generalizing layer with
  | nil =>
    cases walks
    exact .inl (.here v)
  | cons segment rest ih =>
    rw [walk, List.foldlM_cons] at walks
    cases steps : step layer segment with
    | error fault =>
      rw [steps] at walks
      cases walks
    | ok next =>
      rw [steps] at walks
      rcases enters_or_lacks steps with enters | lacks
      · rcases ih walks with reaches | ⟨before, other, after, current, rfl, reaches, lacks⟩
        · exact .inl (.further enters reaches)
        · exact .inr ⟨segment :: before, other, after, current, rfl, .further enters reaches, lacks⟩
      · exact .inr ⟨[], segment, rest, layer, rfl, .here layer, lacks⟩

theorem read_of_reaches (nonempty : path ≠ []) (reaches : Reaches layer (Text.cut dot path) v) :
    read layer (.string path) = .ok v := by
  cases segments : Text.cut dot path with
  | nil => exact absurd segments (Text.cut_ne_nil dot path)
  | cons segment rest =>
    have present : layer.isTruthy = true := by
      rw [segments] at reaches
      cases reaches with
      | further enters on => exact isTruthy_of_enters enters
    rw [read_path present nonempty]
    exact walk_of_reaches reaches

/-- What a path reads as, null apart, is what its segments lead to. -/
theorem read_eq_ok_iff (found : v ≠ .null) :
    read layer (.string path) = .ok v ↔ path ≠ [] ∧ Reaches layer (Text.cut dot path) v := by
  constructor
  · intro reads
    have walked : layer.isTruthy = true ∧ path ≠ [] := by
      by_contra absent
      rw [read_absent absent] at reads
      exact found (Except.ok.inj reads).symm
    rw [read_path walked.1 walked.2] at reads
    exact ⟨walked.2, reaches_of_walk reads (Value.isNull_eq_false found)⟩
  · rintro ⟨nonempty, reaches⟩
    exact read_of_reaches nonempty reaches

/-- A path reads as null exactly if it leads to nothing. -/
theorem read_eq_null_iff : read layer (.string path) = .ok .null ↔ Missing layer path := by
  constructor
  · intro reads
    by_cases empty : path = []
    · exact .empty empty
    by_cases present : layer.isTruthy = true
    · rw [read_path present empty] at reads
      rcases reaches_or_lacks reads with reaches | ⟨_, _, _, _, is, reaches, lacks⟩
      · exact .null reaches
      · exact .nowhere is reaches lacks
    · exact .bare (eq_false_of_ne_true present)
  · intro missing
    cases missing with
    | empty is => exact read_absent fun walked => walked.2 is
    | bare absent => exact read_absent fun walked => by simp [absent] at walked
    | null reaches =>
      by_cases empty : path = []
      · exact read_absent fun walked => walked.2 empty
      · exact read_of_reaches empty reaches
    | nowhere is reaches lacks => exact read_of_lacks is (walk_of_reaches reaches) lacks

end Missing

section Handing

/-- The fields of a mapping from names to texts that are handed over for a data layer: in the order
of the mapping what its paths read as, unless that is null. A field is handed over with whatever
the segments of its path lead to, null apart, and left out exactly if its path leads to nothing. -/
structure HandsOver (layer : Value) (mapping fields : Fields) : Prop where
  read : fields = valuesAt layer mapping
  distinct : Distinct fields
  reached : ∀ name v, (name, v) ∈ fields ↔ ∃ path, (name, .string path) ∈ mapping ∧ path ≠ [] ∧
    Reaches layer (Text.cut dot path) v ∧ v ≠ .null
  dropped : ∀ name path, (name, .string path) ∈ mapping →
    (name ∉ keys fields ↔ Missing layer path)

variable {layer : Value} {mapping : Fields}

theorem mem_present {name other : Text} {v w : Value} :
    (name, v) ∈ present other w ↔ other = name ∧ w = v ∧ v ≠ .null := by
  unfold present
  cases w <;> cases v <;> simp [Value.isNull, eq_comm]

/-- A field is read for a mapping exactly if the path of its name reads as its value. -/
theorem mem_valuesAt (texts : ∀ field ∈ mapping, ∃ path, field.2 = .string path)
    (readable : ∀ field ∈ mapping, Readable layer field.2) {name : Text} {v : Value} :
    (name, v) ∈ valuesAt layer mapping ↔ ∃ path, (name, .string path) ∈ mapping ∧
      read layer (.string path) = .ok v ∧ v ≠ .null := by
  rw [valuesAt, List.mem_flatMap]
  constructor
  · rintro ⟨field, member, own⟩
    obtain ⟨rfl, rfl, found⟩ := mem_present.mp own
    obtain ⟨path, is⟩ := texts field member
    have reads := read_of_readable (readable field member)
    rw [is] at reads
    refine ⟨path, ?_, ?_, found⟩
    · rw [← is]
      exact member
    · rw [is]
      exact reads
  · rintro ⟨path, member, reads, found⟩
    refine ⟨_, member, mem_present.mpr ⟨rfl, ?_, found⟩⟩
    rw [valueAt, reads]

/-- Where every path can be followed, what is read is what is handed over. -/
theorem handsOver_valuesAt (distinct : Distinct mapping)
    (texts : ∀ field ∈ mapping, ∃ path, field.2 = .string path)
    (readable : ∀ field ∈ mapping, Readable layer field.2) :
    HandsOver layer mapping (valuesAt layer mapping) := by
  refine ⟨rfl, distinct.sublist (keys_valuesAt layer mapping), fun name v => ?_,
    fun name path member => ?_⟩
  · rw [mem_valuesAt texts readable]
    constructor
    · rintro ⟨path, member, reads, found⟩
      obtain ⟨nonempty, reaches⟩ := (read_eq_ok_iff found).mp reads
      exact ⟨path, member, nonempty, reaches, found⟩
    · rintro ⟨path, member, nonempty, reaches, found⟩
      exact ⟨path, member, read_of_reaches nonempty reaches, found⟩
  · rw [← read_eq_null_iff, ← lookup?_eq_none, lookup?_valuesAt distinct, resolved?,
      lookup?_of_mem distinct member, Option.map_some,
      read_of_readable (readable _ member)]
    cases valueAt layer (.string path) <;> simp [Value.isNull]

end Handing

end DataLayer

namespace Engine

variable {ω : Type} {engine : Engine ω} {customer : Value} {event : EventData} {platform : Text}
  {mapping fields : Fields} {sender : Sender ω} {s t u : Session ω}

section Calls

/-- The calls by which a sender is handed fields in a session: it builds a payload of them, and
sends the payload if there is one. -/
def handover (sender : Sender ω) (platform : Text) (event : Value) (fields : Fields)
    (u : Session ω) : List Call :=
  match (sender.build event fields).outcome u with
  | (.error fault, _) => [.built platform event fields (.error fault)]
  | (.ok payload, v) => [.built platform event fields (.ok payload),
      .sent platform (.object payload) ((sender.send (.object payload)).outcome v).1]

/-- What a watched engine notes of a branch whose fields are read is that they are handed over. -/
theorem branch_handover (served : lookup? engine.senders platform = some sender)
    (reads : DataLayer.readFields event.layer mapping = .ok fields) (u : Session ω)
    (calls : List Call) :
    (engine.watched.branch event platform mapping).outcome (u.watched calls) =
      (((engine.branch event platform mapping).outcome u).1,
        ((engine.branch event platform mapping).outcome u).2.watched
          (calls ++ handover sender platform event.name fields u)) := by
  obtain ⟨noted, _, runs⟩ := engine.branch_traces event platform mapping u
  suffices same : noted = handover sender platform event.name fields u by rw [runs, same]
  have after : ((engine.watched.branch event platform mapping).outcome (u.watched [])).2.party.2 =
      noted := by
    rw [runs]
    rfl
  rw [← after, branch, lookup?_watched, served, handover]
  dsimp only [Option.map_some]
  rcases builds : (sender.build event.name fields).outcome u with ⟨built, v⟩
  have prepares : (prepare (sender.watched platform) event mapping).outcome (u.watched []) =
      (built, v.watched [.built platform event.name fields built]) := by
    have noted := outcome_noting (fun built => [.built platform event.name fields built])
      (sender.build event.name fields) u []
    rw [builds] at noted
    rw [prepare_run reads]
    exact noted
  rw [outcome_bind_attempt prepares]
  cases built with
  | error fault => rfl
  | ok payload =>
    dsimp only
    rcases sends : (sender.send (.object payload)).outcome v with ⟨outcome, w⟩
    have delivers : ((sender.watched platform).send (.object payload)).outcome
        (v.watched [.built platform event.name fields (.ok payload)]) =
          (outcome, w.watched [.built platform event.name fields (.ok payload),
            .sent platform (.object payload) outcome]) := by
      have noted := outcome_noting (fun outcome => [.sent platform (.object payload) outcome])
        (sender.send (.object payload)) v [.built platform event.name fields (.ok payload)]
      rw [sends] at noted
      exact noted
    rw [outcome_bind_attempt delivers]
    cases outcome <;> rfl

theorem callsTo_handover (sender : Sender ω) (platform : Text) (event : Value) (fields : Fields)
    (u : Session ω) : Call.callsTo platform (handover sender platform event fields u) =
      handover sender platform event fields u := by
  apply Call.callsTo_eq_self
  unfold handover
  split
  · exact List.forall_mem_singleton.mpr rfl
  · exact List.forall_mem_cons.mpr ⟨rfl, List.forall_mem_singleton.mpr rfl⟩

/-- Of the calls of all branches, those to the sender of a platform hand it the fields that are read
for its branch, where the branches in front of it left off. -/
theorem branches_handover {before others : PlatformMappings}
    (served : lookup? engine.senders platform = some sender)
    (reads : DataLayer.readFields event.layer mapping = .ok fields)
    (absent : platform ∉ keys before) (absent' : platform ∉ keys others) (t : Session ω) :
    ∃ (results : OrderedMap Text PlatformResult) (noted : List Call) (after : Session ω), (∀ calls,
        (engine.watched.branches event (before ++ (platform, mapping) :: others)).outcome
          (t.watched calls) = (.ok results, after.watched (calls ++ noted))) ∧
      Call.callsTo platform noted =
        handover sender platform event.name fields (engine.sessionAfter event before t) := by
  induction before generalizing t with
  | nil =>
    obtain ⟨result, _, next, runs, _⟩ := engine.branch_ends event platform mapping t
    obtain ⟨results, after, later⟩ := engine.branches_end event others next
    obtain ⟨noted, elsewhere, watched⟩ := engine.branches_traces event others next
    refine ⟨(platform, result) :: results,
      handover sender platform event.name fields t ++ noted, after, fun calls => ?_, ?_⟩
    · have first := branch_handover served reads t calls
      have rest := watched (calls ++ handover sender platform event.name fields t)
      rw [runs] at first
      rw [later] at rest
      rw [List.nil_append, branches_cons_run first rest, List.append_assoc]
    · rw [Call.callsTo_append, callsTo_handover, Call.callsTo_of_elsewhere absent' elsewhere,
        List.append_nil]
      rfl
  | cons entry rest ih =>
    obtain ⟨other, absent⟩ := not_or.mp (List.mem_cons.not.mp absent)
    obtain ⟨result, _, next, runs, _⟩ := engine.branch_ends event entry.1 entry.2 t
    obtain ⟨first, elsewhere, watched⟩ := engine.branch_traces event entry.1 entry.2 t
    obtain ⟨results, noted, after, later, handed⟩ := ih absent next
    refine ⟨(entry.1, result) :: results, first ++ noted, after, fun calls => ?_, ?_⟩
    · have leads := watched calls
      rw [runs] at leads
      rw [List.cons_append, branches_cons_run leads (later _), List.append_assoc]
    · rw [Call.callsTo_append, Call.callsTo_of_other other elsewhere, List.nil_append, handed,
        sessionAfter_cons runs]

/-- While an event is processed, the calls to the sender of a platform hand it the fields that are
read for its branch, where the branch starts. -/
theorem callsTo_of_branchStarts
    (starts : engine.BranchStarts customer event s platform mapping u)
    (served : lookup? engine.senders platform = some sender)
    (reads : DataLayer.readFields event.layer mapping = .ok fields) :
    Call.callsTo platform (engine.calls customer event s) =
      handover sender platform event.name fields u := by
  obtain ⟨t, found, before, others, dispatches, split, rfl⟩ := starts
  obtain ⟨_, _, read, isEvent⟩ := read_of_dispatches dispatches
  have distinct := CustomerConfig.distinct_of_ofText read isEvent
  rw [split, Distinct, keys, List.map_append, List.map_cons] at distinct
  obtain ⟨_, later, apart⟩ := List.nodup_append.mp distinct
  have absent : platform ∉ keys before := fun member => apart _ member _ List.mem_cons_self rfl
  have absent' : platform ∉ keys others := (List.nodup_cons.mp later).1
  obtain ⟨results, noted, after, branches, handed⟩ :=
    branches_handover served reads absent absent' t
  rw [← split] at branches
  obtain ⟨time, done, _, calls⟩ := calls_of_branches dispatches branches
  rw [calls, Call.callsTo_around, handed]

end Calls

section Logging

/-- Fields that are laid over others: a name is bound as above, or else as below, and the names that
are new follow those below. -/
structure Overlays (below above fields : Fields) : Prop where
  values : ∀ name, lookup? fields name = (lookup? above name).or (lookup? below name)
  ordered : keys fields = keys below ++ (keys above).filter fun name => !(keys below).contains name

/-- What the log sender of a platform makes of the fields of an event: Facebook's are laid over the
name and the time of the event, the others stand under a key of their own. -/
inductive LogShape (event : Value) (time : Instant) (fields : Fields) : Platform → Fields → Prop
  | facebook {payload : Fields} (overlays : Overlays
      [("event_name", event), ("event_time", .int time.unixSeconds)] fields payload) :
      LogShape event time fields .facebook payload
  | ga4 : LogShape event time fields .ga4 [("event_name", event), ("params", .object fields)]
  | googleAds :
      LogShape event time fields .googleAds [("event_name", event), ("payload", .object fields)]

theorem logShape_payload (own : Platform) (event : Value) (time : Instant) {fields : Fields}
    (distinct : Distinct fields) :
    LogShape event time fields own (LogSender.payload own time event fields) := by
  cases own with
  | facebook =>
    exact .facebook ⟨fun name => lookup?_update distinct _ name, keys_update distinct _⟩
  | ga4 => exact .ga4
  | googleAds => exact .googleAds

/-- The sender of a platform is handed the fields of the mapping whose paths lead to anything but
null, and nothing else, in the order of the mapping and with what the paths lead to. A log sender
builds its payload of them and delivers it: the delivery is taken, the platform is answered the
payload under a status that says so, and the event log lists it. -/
theorem process_hands_over (starts : engine.BranchStarts customer event s platform mapping u)
    (texts : ∀ field ∈ mapping, ∃ path, field.2 = .string path)
    (readable : ∀ field ∈ mapping, DataLayer.Readable event.layer field.2)
    (served : lookup? engine.senders platform = some sender) :
    ∃ fields, DataLayer.HandsOver event.layer mapping fields ∧
      Call.callsTo platform (engine.calls customer event s) =
        handover sender platform event.name fields u ∧
      ∀ own, sender = LogSender.sender own →
        ∃ records record payload,
          ((engine.process customer event).outcome s).1 = .ok records ∧
          lookup? records platform = some record ∧
          LogShape event.name u.now fields own payload ∧
          Call.callsTo platform (engine.calls customer event s) =
            [.built platform event.name fields (.ok payload),
              .sent platform (.object payload) (.ok (.taken own))] ∧
          statusOf record = (SendOutcome.taken own).status ∧
          withoutStatus record = withoutStatus payload ∧
          engine.Lists customer event s platform True := by
  have reads := DataLayer.readFields_of_readable readable
  have distinct := distinct_mapping_of_branchStarts starts
  have hands := DataLayer.handsOver_valuesAt distinct texts readable
  have calls := callsTo_of_branchStarts starts served reads
  refine ⟨_, hands, calls, ?_⟩
  rintro own rfl
  let fields := DataLayer.valuesAt event.layer mapping
  have map : Distinct (LogSender.payload own u.now event.name fields) :=
    LogSender.distinct_payload own u.now event.name fields
  obtain ⟨records, result, after, answer, runs, bound, lists⟩ := process_of_branchStarts starts
  obtain ⟨_, _, _, runs', ends⟩ := engine.branch_ends event platform mapping u
  rw [runs] at runs'
  cases runs'
  obtain ⟨rfl, _⟩ := ends.eq_of_prepared served (prepare_run reads u) rfl
  refine ⟨records, _, _, answer, bound, logShape_payload own event.name u.now hands.distinct, calls,
    ?_, PlatformResult.withoutStatus_record _, lists.congr (iff_true_intro rfl)⟩
  rw [PlatformResult.statusOf_record _ map, PlatformResult.status_ofDelivery]
  rfl

/-- Of a purchase for nothing the zero, the false and the empty text are handed over. An explicit
null, what lies below a text and an empty path are left out, and a field that is called so names the
event. -/
theorem process_hands_over_nothing :
    let mapping : Fields := [("amount", .string "total"), ("gift", .string "gift"),
      ("gone", .string "gone"), ("deep", .string "note.deep"), ("blank", .string ""),
      ("note", .string "note"), ("event_name", .string "label")]
    let engine : Engine Unit :=
      .single (.single "acme" "purchase" "facebook" mapping) "facebook" (LogSender.sender .facebook)
    let layer : Value := .object [("total", .int 0), ("gift", .bool false), ("note", .string ""),
      ("gone", .null), ("label", .string "Sale")]
    let event : EventData := ⟨.string "purchase", layer⟩
    let fields : Fields := [("amount", .int 0), ("gift", .bool false), ("note", .string ""),
      ("event_name", .string "Sale")]
    engine.BranchStarts (.string "acme") event (.initial ()) "facebook" mapping (.initial ()) ∧
      (∀ field ∈ mapping, ∃ path, field.2 = .string path) ∧
      (∀ field ∈ mapping, DataLayer.Readable layer field.2) ∧
      lookup? engine.senders "facebook" = some (LogSender.sender .facebook) ∧
      DataLayer.Missing layer "gone" ∧ DataLayer.Missing layer "note.deep" ∧
      DataLayer.Missing layer "" ∧
      ∃ (payload record : Fields) (records : OrderedMap Text Fields),
        ((engine.process (.string "acme") event).outcome (.initial ())).1 = .ok records ∧
        lookup? records "facebook" = some record ∧
        lookup? payload "event_name" = some (.string "Sale") ∧
        Call.callsTo "facebook" (engine.calls (.string "acme") event (.initial ())) =
          [.built "facebook" (.string "purchase") fields (.ok payload),
            .sent "facebook" (.object payload) (.ok (.taken .facebook))] ∧
        statusOf record = (SendOutcome.taken .facebook).status := by
  intro mapping engine layer event fields
  have texts : ∀ field ∈ mapping, ∃ path, field.2 = .string path := by
    intro field member
    simp only [mapping, List.mem_cons, List.not_mem_nil, or_false] at member
    rcases member with rfl | rfl | rfl | rfl | rfl | rfl | rfl <;> exact ⟨_, rfl⟩
  have readable : ∀ field ∈ mapping, DataLayer.Readable layer field.2 := by
    intro field member
    simp only [mapping, List.mem_cons, List.not_mem_nil, or_false] at member
    rcases member with rfl | rfl | rfl | rfl | rfl | rfl | rfl <;> exact ⟨_, rfl⟩
  have starts : engine.BranchStarts (.string "acme") event (.initial ()) "facebook" mapping
      (.initial ()) :=
    branchStarts_single (by decide) texts rfl (LogSender.sender .facebook) layer (.initial ())
  obtain ⟨_, hands, _, logs⟩ := process_hands_over starts texts readable rfl
  have is : DataLayer.valuesAt layer mapping = fields := rfl
  have handed := hands.read.trans is
  subst handed
  obtain ⟨records, record, payload, answer, bound, shape, calls, status, _⟩ := logs .facebook rfl
  have named : lookup? payload "event_name" = some (.string "Sale") := by
    cases shape with
    | facebook overlays => exact overlays.values "event_name"
  have missing (name path : Text) (mapped : (name, .string path) ∈ mapping)
      (absent : name ∉ keys fields) : DataLayer.Missing layer path :=
    (hands.dropped name path mapped).mp absent
  have gone := missing "gone" "gone" (by simp [mapping]) (by decide)
  have deep := missing "deep" "note.deep" (by simp [mapping]) (by decide)
  have blank := missing "blank" "" (by simp [mapping]) (by decide)
  exact ⟨starts, texts, readable, rfl, gone, deep, blank, payload, record, records, answer, bound,
    named, calls, status⟩

end Logging

end Engine

end ConversionRelay
