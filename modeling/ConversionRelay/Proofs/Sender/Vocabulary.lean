import ConversionRelay.Proofs.Config.Generation
import ConversionRelay.Proofs.DataLayer
import ConversionRelay.Proofs.Engine.Loading
import ConversionRelay.Proofs.Sender.Digests
import ConversionRelay.Proofs.Sender.PersonalData
/-!
Generated fields in the words of the platforms.

Three tables have to go together: the names of generated fields, the aliases by which a platform
calls them, and the names of fields with personal data. They do because a platform has an alias for
every field that is generated for it, and no two of these fields get the same one. So a payload binds
an alias to what the path of the field resolves to, and to nothing else.

Main statement: whatever is generated, every field that resolves to a value arrives under the name
that the platform gives it, unless an identifier of a person has no bytes to make a digest of
(`CustomerConfig.generated_arrives`). In that case nothing arrives
(`CustomerConfig.generated_without_bytes`).
-/
namespace ConversionRelay

open OrderedMap

variable {ω : Type}

section Generation

/-- The fields that are generated for a platform. -/
def Platform.fields : Platform → List Text
  | facebook => ["value_path", "currency_path", "email_path", "phone_path", "item_id_path"]
  | ga4 => ["value_path", "currency_path", "email_path", "phone_path", "item_id_path",
      "item_name_path"]
  | googleAds => ["conversion_value"]

/-- Names of fields that are generated for a platform, each at most once. -/
def Platform.Generates (platform : Platform) (names : List Text) : Prop :=
  names.Nodup ∧ ∀ name ∈ names, name ∈ platform.fields

instance (platform : Platform) : DecidablePred platform.Generates := fun names =>
  inferInstanceAs (Decidable (names.Nodup ∧ ∀ name ∈ names, name ∈ platform.fields))

theorem Platform.Generates.sublist {platform : Platform} {names fewer : List Text}
    (generated : platform.Generates names) (sublist : fewer.Sublist names) :
    platform.Generates fewer :=
  ⟨generated.1.sublist sublist, fun name member => generated.2 name (sublist.subset member)⟩

/-- Events are mapped to platforms, and to fields that are generated for the platform. -/
theorem Signals.generates_of_mem_events {signals : Signals} {event : EventConfig}
    (member : event ∈ signals.events) : ∀ entry ∈ event.mappings, ∃ platform : Platform,
      entry.1 = platform.key ∧ platform.Generates (keys entry.2) := by
  rcases mem_events member with rfl | rfl | rfl
  · refine List.forall_mem_cons.mpr ⟨⟨.facebook, rfl, ?_⟩, List.forall_mem_cons.mpr
      ⟨⟨.ga4, rfl, ?_⟩, List.forall_mem_singleton.mpr ⟨.googleAds, rfl, ?_⟩⟩⟩
    · exact show Platform.facebook.Generates ["value_path", "currency_path"] by decide
    · exact show Platform.ga4.Generates ["value_path", "currency_path"] by decide
    · exact show Platform.googleAds.Generates ["conversion_value"] by decide
  · refine List.forall_mem_cons.mpr ⟨⟨.facebook, rfl, ?_⟩,
      List.forall_mem_singleton.mpr ⟨.ga4, rfl, ?_⟩⟩
    · exact show Platform.facebook.Generates ["email_path", "phone_path"] by decide
    · exact show Platform.ga4.Generates ["email_path", "phone_path"] by decide
  · unfold viewItem
    dsimp only
    cases signals.productId.isTruthy with
    | false => exact List.forall_mem_nil _
    | true =>
      refine List.forall_mem_cons.mpr ⟨⟨.facebook, rfl, ?_⟩,
        List.forall_mem_singleton.mpr ⟨.ga4, rfl, ?_⟩⟩
      · exact show Platform.facebook.Generates ["item_id_path"] by decide
      · cases signals.productName.isTruthy with
        | false => exact show Platform.ga4.Generates ["item_id_path"] by decide
        | true => exact show Platform.ga4.Generates ["item_id_path", "item_name_path"] by decide

end Generation

section Renaming

/-! Both platforms leave out some of the fields and give new names to the others. -/

variable {names : List Text} {kept : Text → Bool} {rename : Text → Text} {fields : Fields}

/-- The fields that are kept, under new names and with values that are made for these. -/
def translated (kept : Text → Bool) (rename : Text → Text) (f : Text → Value → Value)
    (fields : Fields) : Fields :=
  ofPairs ((fields.filter fun field => kept field.1).map fun field =>
    (rename field.1, f field.1 field.2))

/-- Names that are kept are told apart by their new names. -/
def KeptApart (names : List Text) (kept : Text → Bool) (rename : Text → Text) : Prop :=
  ∀ a ∈ names, ∀ b ∈ names, kept a → kept b → rename a = rename b → a = b

instance : Decidable (KeptApart names kept rename) :=
  inferInstanceAs (Decidable (∀ a ∈ names, ∀ b ∈ names, kept a → kept b → rename a = rename b →
    a = b))

/-- A field that is kept is found under its new name. -/
theorem lookup?_translated (distinct : Distinct fields) (known : ∀ name ∈ keys fields, name ∈ names)
    (apart : KeptApart names kept rename) (f : Text → Value → Value) {name : Text}
    (member : name ∈ names) (own : kept name = true) :
    lookup? (translated kept rename f fields) (rename name) = (lookup? fields name).map (f name) := by
  have among : ∀ other ∈ keys (fields.filter fun field => kept field.1),
      other ∈ names ∧ kept other = true := by
    intro other isKey
    obtain ⟨field, isField, rfl⟩ := List.mem_map.mp isKey
    obtain ⟨isField, keeps⟩ := List.mem_filter.mp isField
    exact ⟨known _ (List.mem_map_of_mem isField), keeps⟩
  have fewer : Distinct (fields.filter fun field => kept field.1) :=
    distinct.sublist (List.filter_sublist.map Prod.fst)
  have renamed := distinct_rename fewer (fun a isKey b isKey' =>
    apart a (among a isKey).1 b (among b isKey').1 (among a isKey).2 (among b isKey').2) f
  rw [translated, ofPairs_of_distinct renamed, lookup?_rename (fun other isKey =>
    apart other (among other isKey).1 name member (among other isKey).2 own), lookup?_filter own]

/-- Every new name is that of a field that is kept. -/
theorem mem_keys_translated (known : ∀ name ∈ keys fields, name ∈ names)
    {f : Text → Value → Value} {given : Text}
    (member : given ∈ keys (translated kept rename f fields)) :
    ∃ name ∈ names, kept name = true ∧ rename name = given := by
  obtain ⟨entry, isEntry, rfl⟩ := List.mem_map.mp (mem_keys_ofPairs.mp member)
  obtain ⟨field, isField, rfl⟩ := List.mem_map.mp isEntry
  obtain ⟨isField, keeps⟩ := List.mem_filter.mp isField
  exact ⟨field.1, known _ (List.mem_map_of_mem isField), keeps, rfl⟩

end Renaming

section Prices

/-- Fields that tell the value and the currency that were found, and the default currency if there
is a value alone. So there is a currency exactly if one was found or there is a value. -/
structure Priced (found : Text → Option Value) (fields : Fields) : Prop where
  amount : lookup? fields "value" = found "value_path"
  currency : lookup? fields "currency" = (found "currency_path").or
    (if (found "value_path").isSome then some (.string defaultCurrency) else none)
  present : hasKey fields "currency" =
    ((found "currency_path").isSome || hasKey fields "value")

theorem priced_withCurrency {found : Text → Option Value} {fields : Fields}
    (amount : lookup? fields "value" = found "value_path")
    (currency : lookup? fields "currency" = found "currency_path") :
    Priced found (withCurrency fields) := by
  have valued := (lookup?_withCurrency_of_ne (by decide) fields).trans amount
  have priced := lookup?_withCurrency fields
  rw [amount, currency] at priced
  refine ⟨valued, priced, ?_⟩
  rw [hasKey, hasKey, valued, priced]
  cases found "currency_path" with
  | some currency => rfl
  | none => cases (found "value_path").isSome <;> rfl

end Prices

namespace MeasurementSender

/-- Parameters that tell GA4 what was found for generated fields, and nothing that is personal. -/
structure Told (found : Text → Option Value) (params : Fields) : Prop extends
    Priced found params where
  names : ∀ name ∈ keys params, name ∈ (["value", "currency", "item_id", "item_name"] : List Text)
  itemId : lookup? params "item_id" = found "item_id_path"
  itemName : lookup? params "item_name" = found "item_name_path"

theorem told_params {fields : Fields} (generated : Platform.ga4.Generates (keys fields)) :
    Told (lookup? fields) (params fields) := by
  obtain ⟨distinct, known⟩ := generated
  let impersonal : Text → Bool := fun name => !personalFields.contains name
  have apart : KeptApart Platform.ga4.fields impersonal nameOf := by decide
  have spoken : ∀ name ∈ Platform.ga4.fields, impersonal name = true →
      nameOf name ∈ (["value", "currency", "item_id", "item_name"] : List Text) := by decide
  let renamed := translated impersonal nameOf (fun _ v => v) fields
  have arrives (name : Text) (member : name ∈ Platform.ga4.fields)
      (own : impersonal name = true) : lookup? renamed (nameOf name) = lookup? fields name :=
    (lookup?_translated distinct known apart _ member own).trans Option.map_id'
  have sent : params fields = withCurrency renamed := rfl
  rw [sent]
  refine ⟨priced_withCurrency (arrives "value_path" (by decide) (by decide))
    (arrives "currency_path" (by decide) (by decide)), ?_, ?_, ?_⟩
  · intro name member
    rcases mem_keys_withCurrency member with member | rfl
    · obtain ⟨field, isField, own, rfl⟩ := mem_keys_translated known member
      exact spoken field isField own
    · decide
  · rw [lookup?_withCurrency_of_ne (by decide)]
    exact arrives "item_id_path" (by decide) (by decide)
  · rw [lookup?_withCurrency_of_ne (by decide)]
    exact arrives "item_name_path" (by decide) (by decide)

theorem distinct_params (fields : Fields) : Distinct (params fields) :=
  distinct_withCurrency (distinct_ofPairs _)

/-- An event for which a payload is prepared that tells GA4 what the paths of a mapping resolve to.
The parameters of the payload are what any request posts. -/
def Tells (account : MeasurementAccount) (channel : Channel) (event : EventData) (mapping : Fields)
    (s : Session ω) : Prop :=
  ∃ params t,
    let built : Fields := [("event_name", event.name), ("params", .object params)]
    (Engine.prepare (sender account channel) event mapping).outcome s = (.ok built, t) ∧
      Told (DataLayer.resolved? event.layer mapping) params ∧
      Run.AppendsOnly
        (Effect.Posting fun posted => ∃ client, posted = body client event.name params)
        ((sender account channel).send (.object built) : Run ω SendOutcome)

theorem tells_of_generated (account : MeasurementAccount) (channel : Channel) {event : EventData}
    {mapping : Fields} (generated : Platform.ga4.Generates (keys mapping))
    (readable : ∀ field ∈ mapping, DataLayer.Readable event.layer field.2) (s : Session ω) :
    Tells account channel event mapping s := by
  let fields := DataLayer.valuesAt event.layer mapping
  have found : lookup? fields = DataLayer.resolved? event.layer mapping :=
    funext (DataLayer.lookup?_valuesAt generated.1)
  have told : Told (lookup? fields) (params fields) :=
    told_params (generated.sublist (DataLayer.keys_valuesAt event.layer mapping))
  have reads := DataLayer.readFields_of_readable readable
  refine ⟨params fields, _, (Engine.prepare_run reads s).trans (build_run account channel _ _ s),
    found ▸ told, ?_⟩
  have anonymous : Text.ofString "client_id" ∉ keys (params fields) := fun member =>
    absurd (told.names _ member) (by decide)
  have posting := send_posting (ω := ω) account channel event.name fields
  rw [erase_of_not_mem anonymous, ofPairs_of_distinct (distinct_params fields)] at posting
  exact posting

end MeasurementSender

namespace MetaSender

section Custom

/-- The value of a field in the custom data. -/
def customValue (name : Text) (v : Value) : Value :=
  if nameOf name = "content_ids" then .array [v] else v

/-- Whether fields of a name go into the custom data. -/
def isCustom (name : Text) : Bool := !decide (IsIdentifier name)

/-- Routing one field puts it into the custom data unless it is one for identifiers. -/
theorem custom_of_route {routed next : Routed} {field : Text × Value}
    (routes : route routed field = .ok next) : next.custom =
      if isCustom field.1 then put routed.custom (nameOf field.1) (customValue field.1 field.2)
      else routed.custom := by
  have untouched {key : Text} (identified : routed.identify key field.2 = .ok next) :
      next.custom = routed.custom := by
    rcases identify_cases identified with ⟨_, rfl⟩ | ⟨_, _, _, rfl⟩ <;> rfl
  unfold route at routes
  dsimp only at routes
  split at routes
  · rename_i email
    rw [untouched routes, if_neg (by simp [isCustom, IsIdentifier, email])]
  split at routes
  · rename_i phone
    rw [untouched routes, if_neg (by simp [isCustom, IsIdentifier, phone])]
  split at routes
  · rename_i notEmail notPhone list
    cases routes
    rw [if_pos (by simp [isCustom, IsIdentifier, notEmail, notPhone]), customValue, if_pos list]
    rfl
  · rename_i notEmail notPhone plain
    cases routes
    rw [if_pos (by simp [isCustom, IsIdentifier, notEmail, notPhone]), customValue, if_neg plain]
    rfl

/-- Routing fields one after the other translates those that go into the custom data. -/
theorem custom_of_routes {fields : Fields} {routed final : Routed}
    (runs : fields.foldlM route routed = .ok final) : final.custom = update routed.custom
      ((fields.filter fun field => isCustom field.1).map fun field =>
        (nameOf field.1, customValue field.1 field.2)) := by
  induction fields generalizing routed with
  | nil =>
    cases runs
    rfl
  | cons field rest ih =>
    rw [List.foldlM_cons] at runs
    cases routes : route routed field with
    | error fault =>
      rw [routes] at runs
      cases runs
    | ok next =>
      rw [routes] at runs
      rw [ih runs, custom_of_route routes]
      cases own : isCustom field.1 with
      | true => rw [if_pos rfl, List.filter_cons, own, if_pos rfl, List.map_cons, update_cons]
      | false => rw [if_neg Bool.false_ne_true, List.filter_cons, own, if_neg Bool.false_ne_true]

end Custom

/-- Where one field alone goes by a name, it is the one that may bring an identifier. -/
theorem lastIdentifier?_of_only {fields : Fields} (distinct : Distinct fields) {name own : Text}
    (only : ∀ other ∈ keys fields, nameOf other = name ↔ other = own) :
    lastIdentifier? name fields = (lookup? fields own).filter Value.isTruthy := by
  have same : fields.filter (identifies name) =
      (fields.filter fun field => field.1 == own).filter fun field => field.2.isTruthy := by
    rw [List.filter_filter]
    apply List.filter_congr
    intro field member
    have named : (nameOf field.1 == name) = (field.1 == own) := by
      rw [Bool.eq_iff_iff, beq_iff_eq, beq_iff_eq]
      exact only field.1 (List.mem_map_of_mem member)
    rw [identifies, named, Bool.and_comm]
  rw [lastIdentifier?, same, filter_key distinct]
  cases lookup? fields own with
  | none => rfl
  | some identifier => cases present : identifier.isTruthy <;> simp [Option.filter, present]

/-- Data that tells Meta what was found for generated fields, and identifiers of people as digests
only. -/
structure Told (found : Text → Option Value) (user custom : Fields) : Prop extends
    Priced found custom where
  customNames : ∀ name ∈ keys custom, name ∈ (["value", "currency", "content_ids"] : List Text)
  userNames : ∀ name ∈ keys user, name ∈ (["em", "ph"] : List Text)
  contentIds : lookup? custom "content_ids" = (found "item_id_path").map fun id => .array [id]
  email : Digested ((found "email_path").filter Value.isTruthy) (lookup? user "em")
  phone : Digested ((found "phone_path").filter Value.isTruthy) (lookup? user "ph")

/-- Generated names that go into the custom data stay apart there. -/
theorem keptApart_custom : KeptApart Platform.facebook.fields isCustom nameOf := by decide

theorem nameOf_custom : ∀ name ∈ Platform.facebook.fields, isCustom name = true →
    nameOf name ∈ (["value", "currency", "content_ids"] : List Text) := by decide

/-- Of the generated names, one alone brings an address and one alone a number. -/
theorem nameOf_identifier : ∀ name ∈ Platform.facebook.fields,
    (nameOf name = "email" ↔ name = "email_path") ∧
      (nameOf name = "phone" ↔ name = "phone_path") := by decide

theorem told_routed {fields : Fields} (generated : Platform.facebook.Generates (keys fields))
    {final : Routed} (runs : fields.foldlM route ⟨[], []⟩ = .ok final)
    (reflects : Reflects final fields) :
    Told (lookup? fields) final.user (withCurrency final.custom) := by
  obtain ⟨distinct, known⟩ := generated
  have custom : final.custom = translated isCustom nameOf customValue fields :=
    custom_of_routes runs
  have arrives (name : Text) (member : name ∈ Platform.facebook.fields)
      (own : isCustom name = true) :
      lookup? final.custom (nameOf name) = (lookup? fields name).map (customValue name) := by
    rw [custom]
    exact lookup?_translated distinct known keptApart_custom _ member own
  refine ⟨priced_withCurrency ?_ ?_, ?_, ?_, ?_, ?_, ?_⟩
  · exact (arrives "value_path" (by decide) (by decide)).trans Option.map_id'
  · exact (arrives "currency_path" (by decide) (by decide)).trans Option.map_id'
  · intro name member
    rcases mem_keys_withCurrency member with member | rfl
    · rw [custom] at member
      obtain ⟨field, isField, own, rfl⟩ := mem_keys_translated known member
      exact nameOf_custom field isField own
    · decide
  · intro name member
    rcases reflects.slots name member with rfl | rfl <;> decide
  · rw [lookup?_withCurrency_of_ne (by decide)]
    exact arrives "item_id_path" (by decide) (by decide)
  · rw [← lastIdentifier?_of_only distinct fun other member =>
      (nameOf_identifier other (known other member)).1]
    exact reflects.email
  · rw [← lastIdentifier?_of_only distinct fun other member =>
      (nameOf_identifier other (known other member)).2]
    exact reflects.phone

variable {kind : Value → Prop}

theorem conclude_appendsOnly (account : MetaAccount) (reply : HttpReply) :
    Run.AppendsOnly (Effect.Posting kind) (conclude account reply : Run ω SendOutcome) := by
  cases reply with
  | transportFailure detail => exact .throw _
  | otherFailure detail => exact .throw _
  | response status text =>
    simp only [conclude]
    split
    · exact .bind (.ofExcept _) fun count => .bind (.log _ _ _ trivial) fun _ => .pure _
    · exact .bind (.log _ _ _ trivial) fun _ => .pure _

/-- Whatever is requested to deliver a payload posts the payload as it is. -/
theorem send_posting (account : MetaAccount) (channel : Channel) (payload : Value) :
    Run.AppendsOnly (Effect.Posting fun posted => posted = body account payload)
      (send account channel payload : Run ω SendOutcome) := by
  refine .bind (.ensureOpen channel trivial) fun _ => .ofExcept_bind fun made posted => ?_
  refine .bind (.exchange ?_) (conclude_appendsOnly account)
  rw [request] at posted
  cases address : Address.below base (endpoint account) with
  | error fault => rw [address] at posted; cases posted
  | ok target => rw [address] at posted; exact HttpRequest.body_of_posting posted

/-- An event for which a payload is prepared that tells Meta what the paths of a mapping resolve to,
and which is what any request posts. If a present identifier has no bytes, none is prepared. -/
def Tells (account : MetaAccount) (channel : Channel) (event : EventData) (mapping : Fields)
    (s : Session ω) : Prop :=
  let found := DataLayer.resolved? event.layer mapping
  let prepared := (Engine.prepare (sender account channel) event mapping).outcome s
  (∃ user custom,
    let built : Fields := [
      ("event_name", event.name),
      ("event_time", .int s.now.unixSeconds),
      ("action_source", .string "website"),
      ("user_data", .object user),
      ("custom_data", .object custom)]
    prepared = (.ok built, s) ∧ Told found user custom ∧
      Run.AppendsOnly (Effect.Posting fun posted => posted = body account (.object built))
        ((sender account channel).send (.object built) : Run ω SendOutcome)) ∨
  ∃ name ∈ (["email_path", "phone_path"] : List Text), ∃ identifier problem,
    found name = some identifier ∧ identifier.isTruthy = true ∧
    Text.encodeUtf8 (Text.lower (Text.trim identifier.text)) = .error problem ∧
    prepared = (.error (.unencodable problem), s)

theorem tells_of_generated (account : MetaAccount) (channel : Channel) {event : EventData}
    {mapping : Fields} (generated : Platform.facebook.Generates (keys mapping))
    (readable : ∀ field ∈ mapping, DataLayer.Readable event.layer field.2) (s : Session ω) :
    Tells account channel event mapping s := by
  let fields := DataLayer.valuesAt event.layer mapping
  have found : lookup? fields = DataLayer.resolved? event.layer mapping :=
    funext (DataLayer.lookup?_valuesAt generated.1)
  have fewer : Platform.facebook.Generates (keys fields) :=
    generated.sublist (DataLayer.keys_valuesAt event.layer mapping)
  have prepares : (Engine.prepare (sender account channel) event mapping).outcome s =
      (payload s.now event.name fields, s) :=
    (Engine.prepare_run (DataLayer.readFields_of_readable readable) s).trans
      (build_run account channel _ _ s)
  rcases reflects_nil.routeAll fields with ⟨final, runs, reflects⟩ | ⟨field, member, fault, failing⟩
  · refine .inl ⟨final.user, withCurrency final.custom, ?_, found ▸ told_routed fewer runs reflects,
      send_posting account channel _⟩
    rw [prepares, payload, runs]
    rfl
  · obtain ⟨identifies, undigested, fails⟩ := failing
    obtain ⟨problem, unencodable, rfl⟩ := digestOf_eq_error undigested
    have named : ∀ name ∈ Platform.facebook.fields, nameOf name = "email" ∨ nameOf name = "phone" →
        name ∈ (["email_path", "phone_path"] : List Text) := by decide
    have known := fewer.2 field.1 (List.mem_map_of_mem member)
    refine .inr ⟨field.1, ?_, field.2, problem, ?_, ?_, unencodable, ?_⟩
    · apply named _ known
      rcases identifies with email | phone
      · exact .inl (eq_of_beq (Bool.and_eq_true_iff.mp email).1)
      · exact .inr (eq_of_beq (Bool.and_eq_true_iff.mp phone).1)
    · rw [← found]
      exact lookup?_of_mem fewer.1 member
    · rcases identifies with email | phone
      · exact (Bool.and_eq_true_iff.mp email).2
      · exact (Bool.and_eq_true_iff.mp phone).2
    · rw [prepares, payload, fails]
      rfl

end MetaSender

section Arrival

namespace CustomerConfig

/-- Whatever configuration is generated from bindings of texts to texts, and whatever the settings
are, every platform of an event is served, its mapping has fields that are generated for it, and GA4
and Meta are told what these resolve to. -/
theorem generated_arrives (settings : Settings) (customer : Value) (texts : OrderedMap Text Text)
    (lines : List LogLine) : ∃ config added,
      (generate customer (Bindings.ofTexts texts)).outcomeBehind lines =
        (.ok config, lines ++ added) ∧
      ∀ event ∈ config.events, ∀ key mapping, (key, mapping) ∈ event.mappings →
        hasKey (SenderKinds.ofSettings settings) key = true ∧ ∃ platform : Platform,
          key = platform.key ∧ (∀ name ∈ keys mapping, name ∈ platform.fields) ∧
          ∀ incoming : EventData,
            (∀ field ∈ mapping, DataLayer.Readable incoming.layer field.2) →
            ∀ (channel : Channel) (s : Session ω),
              (platform = .ga4 → ∀ account,
                MeasurementSender.Tells account channel incoming mapping s) ∧
              (platform = .facebook → ∀ account,
                MetaSender.Tells account channel incoming mapping s) := by
  obtain ⟨added, generates⟩ := generate_ofTexts customer texts lines
  refine ⟨_, added, generates, ?_⟩
  intro event member key mapping mapped
  obtain ⟨platform, rfl, generated⟩ :=
    Signals.generates_of_mem_events member (key, mapping) mapped
  refine ⟨SenderKinds.hasKey_ofSettings settings platform, platform, rfl, generated.2, ?_⟩
  intro incoming readable channel s
  constructor
  · rintro rfl account
    exact MeasurementSender.tells_of_generated account channel generated readable s
  · rintro rfl account
    exact MetaSender.tells_of_generated account channel generated readable s

/-- An email without bytes keeps the phone beside it from Meta. -/
theorem generated_without_bytes :
    let texts : OrderedMap Text Text := [("Email", "email"), ("Phone", "phone")]
    let layer : Value := .object [("email", .string [.surrogate 0]), ("phone", .string "555")]
    ∃ config added,
      (generate (.string "acme") (Bindings.ofTexts texts)).outcomeBehind [] = (.ok config, added) ∧
      ∃ event ∈ config.events, ∃ mapping, (Platform.facebook.key, mapping) ∈ event.mappings ∧
        (∀ field ∈ mapping, DataLayer.Readable layer field.2) ∧
        DataLayer.resolved? layer mapping "phone_path" = some (.string "555") ∧
        ∀ (account : MetaAccount) (channel : Channel) (s : Session Unit) (built : Fields),
          ((Engine.prepare (MetaSender.sender account channel) ⟨.string "lead", layer⟩
            mapping).outcome s).1 ≠ .ok built := by
  intro texts layer
  obtain ⟨added, generates⟩ := generate_ofTexts (.string "acme") texts []
  have leading : leadingPath? texts = fun signal => match signal with
      | .email => some (Text.ofString "email")
      | .phone => some (Text.ofString "phone")
      | _ => none := by
    funext signal
    cases signal <;> decide +kernel
  rw [leading] at generates
  let mapping : Fields := [("email_path", .string "email"), ("phone_path", .string "phone")]
  let fields : Fields := [("email_path", .string [.surrogate 0]), ("phone_path", .string "555")]
  refine ⟨_, _, generates, _, List.mem_singleton.mpr rfl, mapping, List.mem_cons_self, ?_, rfl, ?_⟩
  · exact List.forall_mem_cons.mpr ⟨⟨_, rfl⟩, List.forall_mem_singleton.mpr ⟨_, rfl⟩⟩
  · intro account channel s built same
    have reads : DataLayer.readFields layer mapping = .ok fields := rfl
    have undigested : (MetaSender.digestOf (.string [.surrogate 0])).isOk = false := by
      decide +kernel
    cases made : MetaSender.digestOf (.string [.surrogate 0]) with
    | ok digest =>
      rw [made] at undigested
      cases undigested
    | error fault =>
      have routes : MetaSender.route ⟨[], []⟩ ("email_path", .string [.surrogate 0]) =
          .error fault := by
        have email : MetaSender.nameOf "email_path" = "email" := by decide
        rw [MetaSender.route, if_pos email, MetaSender.Routed.identify]
        dsimp only
        rw [made]
        rfl
      rw [Engine.prepare_run reads, MetaSender.build_run, MetaSender.payload, List.foldlM_cons,
        routes] at same
      cases same

end CustomerConfig

end Arrival

end ConversionRelay
