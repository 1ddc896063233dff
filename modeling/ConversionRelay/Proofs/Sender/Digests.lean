import ConversionRelay.Proofs.Run
import ConversionRelay.Proofs.Sender.Basic
import ConversionRelay.Proofs.Text.Case
import ConversionRelay.Sender.Meta
import Mathlib.Data.List.Forall2
/-!
Meta learns identifiers of people as digests only.

Routing keeps an invariant over the fields that it has passed (`Reflects`): each of the two slots
for identifiers holds the digest of the last present identifier that goes there, and the custom data
has no field that could hold one. What routing does with an identifier depends on its normal form
and on whether it counts as present, so two lists of fields that agree in these have one payload;
blanks around an identifier and the case of its letters are not part of the normal form.

Main statement: a payload holds emails and phones as digests of their normal forms, and depends on
nothing else of them (`identifiers_digested`).
-/
namespace ConversionRelay.MetaSender

open OrderedMap

variable {ω : Type}

section Slots

/-- The names of fields that hold identifiers, generated ones included. -/
def identifierFields : List Text := ["email", "phone", "email_path", "phone_path"]

/-- Whether a field goes by a name of the interface and counts as present. -/
def identifies (name : Text) (field : Text × Value) : Bool :=
  nameOf field.1 == name && field.2.isTruthy

/-- The last present identifier that goes by a name of the interface. -/
def lastIdentifier? (name : Text) (fields : Fields) : Option Value :=
  (fields.filter (identifies name)).getLast?.map Prod.snd

theorem lastIdentifier?_concat (name : Text) (fields : Fields) (field : Text × Value) :
    lastIdentifier? name (fields ++ [field]) =
      if identifies name field then some field.2 else lastIdentifier? name fields := by
  cases present : identifies name field <;> simp [lastIdentifier?, present]

/-- A slot holds a list of one digest, that of the normal form of an identifier; without an
identifier the slot is empty. -/
def Digested : Option Value → Option Value → Prop
  | none, slot => slot = none
  | some identifier, slot => ∃ digest,
    Digest.ofText (Text.lower (Text.trim identifier.text)) = .ok digest ∧
      slot = some (.array [.string digest])

/-- An identifier has no digest just where its normal form has no bytes. -/
theorem digestOf_eq_error {identifier : Value} {fault : Fault}
    (fails : digestOf identifier = .error fault) : ∃ problem,
      Text.encodeUtf8 (normalForm identifier) = .error problem ∧ fault = .unencodable problem := by
  unfold digestOf Digest.ofText at fails
  cases encoded : Text.encodeUtf8 (normalForm identifier) with
  | error problem =>
    rw [encoded] at fails
    exact ⟨problem, rfl, (Except.error.inj fails).symm⟩
  | ok bytes =>
    rw [encoded] at fails
    cases fails

theorem ofText_of_digestOf {identifier : Value} {digest : Text}
    (is : digestOf identifier = .ok digest) :
    Digest.ofText (normalForm identifier) = .ok digest := by
  unfold digestOf at is
  cases made : Digest.ofText (normalForm identifier) with
  | error problem => rw [made] at is; cases is
  | ok other => rw [made] at is; exact congrArg _ (Except.ok.inj is)

/-- No field of the interface has a generated name of an identifier. -/
theorem nameOf_not_generated (field : Text) :
    nameOf field ≠ "email_path" ∧ nameOf field ≠ "phone_path" := by
  have aliasesOther : ∀ name ∈ values aliases, name ≠ "email_path" ∧ name ≠ "phone_path" := by
    decide
  unfold nameOf
  cases found : lookup? aliases field with
  | some name => exact aliasesOther name (mem_values_of_lookup? found)
  | none =>
    constructor
    · rintro rfl
      exact absurd found (by decide)
    · rintro rfl
      exact absurd found (by decide)

end Slots

section Routing

/-- What is known of routed data once some fields have been passed. -/
structure Reflects (routed : Routed) (passed : Fields) : Prop where
  distinct : Distinct routed.user
  slots : ∀ key ∈ keys routed.user, key = "em" ∨ key = "ph"
  email : Digested (lastIdentifier? "email" passed) (lookup? routed.user "em")
  phone : Digested (lastIdentifier? "phone" passed) (lookup? routed.user "ph")
  custom : ∀ name ∈ keys routed.custom, name ∉ identifierFields

theorem reflects_nil : Reflects ⟨[], []⟩ [] :=
  ⟨List.nodup_nil, by simp, rfl, rfl, by simp⟩

/-- A field that goes into the custom data changes nothing about the identifiers. -/
theorem Reflects.customise {routed : Routed} {passed : Fields} (known : Reflects routed passed)
    {field : Text × Value} (v : Value) (notEmail : nameOf field.1 ≠ "email")
    (notPhone : nameOf field.1 ≠ "phone") :
    Reflects (routed.customise (nameOf field.1) v) (passed ++ [field]) := by
  have unseen (name : Text) (other : nameOf field.1 ≠ name) :
      lastIdentifier? name (passed ++ [field]) = lastIdentifier? name passed := by
    rw [lastIdentifier?_concat, if_neg (by simp [identifies, other])]
  refine ⟨known.distinct, known.slots, ?_, ?_, fun name member => ?_⟩
  · rw [unseen "email" notEmail]
    exact known.email
  · rw [unseen "phone" notPhone]
    exact known.phone
  · rcases mem_keys_put.mp member with old | rfl
    · exact known.custom name old
    · obtain ⟨notEmailPath, notPhonePath⟩ := nameOf_not_generated field.1
      simp [identifierFields, notEmail, notPhone, notEmailPath, notPhonePath]

/-- A present identifier takes its slot, and any other leaves all as it was. -/
theorem identify_cases {routed next : Routed} {key : Text} {identifier : Value}
    (identified : routed.identify key identifier = .ok next) :
    (identifier.isTruthy = false ∧ next = routed) ∨
    (identifier.isTruthy = true ∧ ∃ digest, Digest.ofText (normalForm identifier) = .ok digest ∧
      next = { routed with user := put routed.user key (.array [.string digest]) }) := by
  unfold Routed.identify at identified
  split at identified
  · rename_i present
    cases made : digestOf identifier with
    | error fault => rw [made] at identified; cases identified
    | ok digest =>
      rw [made] at identified
      exact .inr ⟨present, digest, ofText_of_digestOf made, (Except.ok.inj identified).symm⟩
  · rename_i absent
    exact .inl ⟨by simpa using absent, (Except.ok.inj identified).symm⟩

/-- An identifier that is routed to its slot is digested there, and the other slot is left alone. -/
theorem digested_identify {routed next : Routed} {passed : Fields} {field : Text × Value}
    {name other key otherKey : Text} (identified : routed.identify key field.2 = .ok next)
    (goes : nameOf field.1 = name) (differ : name ≠ other) (apart : key ≠ otherKey)
    (own : Digested (lastIdentifier? name passed) (lookup? routed.user key))
    (foreign : Digested (lastIdentifier? other passed) (lookup? routed.user otherKey)) :
    Digested (lastIdentifier? name (passed ++ [field])) (lookup? next.user key) ∧
      Digested (lastIdentifier? other (passed ++ [field])) (lookup? next.user otherKey) := by
  have notOther : identifies other field = false := by simp [identifies, goes, differ]
  rw [lastIdentifier?_concat, lastIdentifier?_concat, notOther, if_neg Bool.false_ne_true]
  rcases identify_cases identified with ⟨absent, rfl⟩ | ⟨present, digest, is, rfl⟩
  · rw [if_neg (by simp [identifies, absent])]
    exact ⟨own, foreign⟩
  · rw [if_pos (by simp [identifies, goes, present]), lookup?_put_self,
      lookup?_put_of_ne _ _ apart]
    exact ⟨⟨digest, is, rfl⟩, foreign⟩

theorem user_identify {routed next : Routed} {key : Text} {identifier : Value}
    (identified : routed.identify key identifier = .ok next) (slot : key = "em" ∨ key = "ph")
    (distinct : Distinct routed.user) (slots : ∀ key ∈ keys routed.user, key = "em" ∨ key = "ph") :
    Distinct next.user ∧ (∀ key ∈ keys next.user, key = "em" ∨ key = "ph") ∧
      next.custom = routed.custom := by
  rcases identify_cases identified with ⟨_, rfl⟩ | ⟨_, digest, _, rfl⟩
  · exact ⟨distinct, slots, rfl⟩
  · refine ⟨distinct_put _ _ _ distinct, fun other member => ?_, rfl⟩
    rcases mem_keys_put.mp member with old | rfl
    · exact slots other old
    · exact slot

/-- Routing one more field keeps what is known. -/
theorem Reflects.route {routed next : Routed} {passed : Fields} (known : Reflects routed passed)
    {field : Text × Value} (routes : route routed field = .ok next) :
    Reflects next (passed ++ [field]) := by
  unfold MetaSender.route at routes
  dsimp only at routes
  split at routes
  · -- The slot of the identifier is filled anew, and the other one stays as it was.
    rename_i email
    obtain ⟨distinct, slots, custom⟩ := user_identify routes (.inl rfl) known.distinct known.slots
    obtain ⟨own, foreign⟩ := digested_identify routes email (by decide) (by decide)
      known.email known.phone
    exact ⟨distinct, slots, own, foreign, custom ▸ known.custom⟩
  split at routes
  · rename_i phone
    obtain ⟨distinct, slots, custom⟩ := user_identify routes (.inr rfl) known.distinct known.slots
    obtain ⟨own, foreign⟩ := digested_identify routes phone (by decide) (by decide)
      known.phone known.email
    exact ⟨distinct, slots, foreign, own, custom ▸ known.custom⟩
  split at routes
  · rename_i notEmail notPhone _
    cases routes
    exact known.customise _ notEmail notPhone
  · rename_i notEmail notPhone _
    cases routes
    exact known.customise _ notEmail notPhone

/-- Routing a field fails only where it holds a present identifier without a digest. -/
theorem route_eq_error {routed : Routed} {field : Text × Value} {fault : Fault}
    (fails : route routed field = .error fault) :
    (identifies "email" field = true ∨ identifies "phone" field = true) ∧
      digestOf field.2 = .error fault := by
  have undigested {key : Text} (fails : routed.identify key field.2 = .error fault) :
      field.2.isTruthy = true ∧ digestOf field.2 = .error fault := by
    unfold Routed.identify at fails
    split at fails
    · rename_i present
      cases made : digestOf field.2 with
      | error other => rw [made] at fails; exact ⟨present, congrArg _ (Except.error.inj fails)⟩
      | ok digest => rw [made] at fails; cases fails
    · cases fails
  unfold MetaSender.route at fails
  dsimp only at fails
  split at fails
  · rename_i email
    obtain ⟨present, is⟩ := undigested fails
    exact ⟨.inl (by simp [identifies, email, present]), is⟩
  split at fails
  · rename_i phone
    obtain ⟨present, is⟩ := undigested fails
    exact ⟨.inr (by simp [identifies, phone, present]), is⟩
  split at fails
  · cases fails
  · cases fails

/-- Routing fields one after the other keeps what is known, or fails at one of them. -/
theorem Reflects.routeAll (fields : Fields) {routed : Routed} {passed : Fields}
    (known : Reflects routed passed) :
    (∃ final, fields.foldlM MetaSender.route routed = .ok final ∧
      Reflects final (passed ++ fields)) ∨
    ∃ field ∈ fields, ∃ fault, (identifies "email" field = true ∨ identifies "phone" field = true) ∧
      digestOf field.2 = .error fault ∧ fields.foldlM MetaSender.route routed = .error fault := by
  induction fields generalizing routed passed with
  | nil => exact .inl ⟨routed, rfl, by simpa using known⟩
  | cons field rest ih =>
    rw [List.foldlM_cons]
    cases routes : MetaSender.route routed field with
    | error fault =>
      obtain ⟨identifier, undigested⟩ := route_eq_error routes
      exact .inr ⟨field, by simp, fault, identifier, undigested, rfl⟩
    | ok next =>
      rcases ih (known.route routes) with ⟨final, runs, reflects⟩ | ⟨other, member, fault, fails⟩
      · exact .inl ⟨final, runs, by simpa using reflects⟩
      · exact .inr ⟨other, List.mem_cons_of_mem _ member, fault, fails⟩

end Routing

section Comparison

/-- Whether fields of a name hold identifiers. -/
def IsIdentifier (name : Text) : Prop := nameOf name = "email" ∨ nameOf name = "phone"

instance : DecidablePred IsIdentifier := fun name =>
  inferInstanceAs (Decidable (nameOf name = "email" ∨ nameOf name = "phone"))

/-- Two fields of one name with one value, or with identifiers of one normal form that both count as
present or both do not. -/
def Alike (a b : Text × Value) : Prop :=
  a.1 = b.1 ∧ (a.2 = b.2 ∨ IsIdentifier a.1 ∧ a.2.isTruthy = b.2.isTruthy ∧
    Text.lower (Text.trim a.2.text) = Text.lower (Text.trim b.2.text))

theorem identify_congr (routed : Routed) (key : Text) {v w : Value}
    (present : v.isTruthy = w.isTruthy) (same : normalForm v = normalForm w) :
    routed.identify key v = routed.identify key w := by
  rw [Routed.identify, Routed.identify, present, digestOf_congr same]

/-- Fields that are alike are routed alike. -/
theorem route_congr {a b : Text × Value} (alike : Alike a b) (routed : Routed) :
    route routed a = route routed b := by
  obtain ⟨name, v⟩ := a
  obtain ⟨other, w⟩ := b
  obtain ⟨names, values⟩ := alike
  dsimp only at names values
  subst names
  rcases values with rfl | ⟨identifier, present, same⟩
  · rfl
  · unfold route
    dsimp only
    by_cases email : nameOf name = "email"
    · rw [if_pos email, if_pos email, identify_congr routed "em" present same]
    · have phone : nameOf name = "phone" := identifier.resolve_left email
      rw [if_neg email, if_neg email, if_pos phone, if_pos phone,
        identify_congr routed "ph" present same]

theorem routeAll_congr {f g : Fields} (alike : List.Forall₂ Alike f g) (routed : Routed) :
    f.foldlM route routed = g.foldlM route routed := by
  induction alike generalizing routed with
  | nil => rfl
  | cons first _ ih =>
    rw [List.foldlM_cons, List.foldlM_cons, route_congr first]
    exact bind_congr ih

/-- Lists of alike fields have one payload. -/
theorem payload_congr (time : Instant) (event : Value) {f g : Fields}
    (alike : List.Forall₂ Alike f g) : payload time event f = payload time event g := by
  rw [payload, payload, routeAll_congr alike]

theorem alike_refl (fields : Fields) : List.Forall₂ Alike fields fields :=
  List.forall₂_same.mpr fun _ _ => ⟨rfl, .inl rfl⟩

/-- Blanks around an identifier, and the case of its letters. -/
inductive Restyled (s : Text) : Text → Prop where
  | padded (before after : Text) (opening : ∀ c ∈ before, Text.isBlank c = true)
      (closing : ∀ c ∈ after, Text.isBlank c = true) : Restyled s (before ++ s ++ after)
  | lowered : Restyled s (Text.lower s)

/-- A restyled identifier has the normal form of the identifier, and is empty where that is. -/
theorem Restyled.same {s t : Text} (restyled : Restyled s t) (nonempty : s ≠ []) :
    Text.lower (Text.trim s) = Text.lower (Text.trim t) ∧ t ≠ [] := by
  cases restyled with
  | padded before after opening closing =>
    rw [Text.trim_between_blanks opening closing]
    exact ⟨rfl, by simp [nonempty]⟩
  | lowered =>
    exact ⟨(Text.lower_trim_lower s).symm, fun none => nonempty (Text.lower_eq_nil.mp none)⟩

theorem alike_of_restyled {name s t : Text} (identifier : IsIdentifier name) (nonempty : s ≠ [])
    (restyled : Restyled s t) : Alike (name, .string s) (name, .string t) := by
  obtain ⟨same, nonempty'⟩ := restyled.same nonempty
  refine ⟨rfl, .inr ⟨identifier, ?_, same⟩⟩
  simp only [Value.isTruthy, List.isEmpty_eq_false_iff.mpr nonempty,
    List.isEmpty_eq_false_iff.mpr nonempty']

end Comparison

section Payloads

theorem build_run (account : MetaAccount) (channel : Channel) (event : Value) (fields : Fields)
    (s : Session ω) :
    ((sender account channel).build event fields).outcome s = (payload s.now event fields, s) := rfl

/-- A payload in which identifiers appear as digests of their normal forms only. -/
structure Shielded (time : Instant) (event : Value) (fields built : Fields)
    (user custom : Fields) : Prop where
  shape : built = ([
    ("event_name", event),
    ("event_time", .int time.unixSeconds),
    ("action_source", .string "website"),
    ("user_data", .object user),
    ("custom_data", .object custom)] : Fields)
  custom : ∀ name ∈ keys custom, name ∉ identifierFields
  distinct : Distinct user
  slots : ∀ key ∈ keys user, key = "em" ∨ key = "ph"
  email : Digested (lastIdentifier? "email" fields) (lookup? user "em")
  phone : Digested (lastIdentifier? "phone" fields) (lookup? user "ph")

/-- A payload is shielded, or there is none because a present identifier has no bytes. -/
theorem payload_shielded (time : Instant) (event : Value) (fields : Fields) :
    (∃ built user custom, payload time event fields = .ok built ∧
      Shielded time event fields built user custom) ∨
    ∃ field ∈ fields, ∃ problem,
      (identifies "email" field = true ∨ identifies "phone" field = true) ∧
      Text.encodeUtf8 (Text.lower (Text.trim field.2.text)) = .error problem ∧
      payload time event fields = .error (.unencodable problem) := by
  rcases reflects_nil.routeAll fields with ⟨final, runs, reflects⟩ | found
  · refine .inl ⟨_, final.user, withCurrency final.custom, by rw [payload, runs]; rfl,
      ⟨rfl, ?_, reflects.distinct, reflects.slots, reflects.email, reflects.phone⟩⟩
    intro name member
    rcases mem_keys_withCurrency member with custom | rfl
    · exact reflects.custom name custom
    · decide
  · obtain ⟨field, member, fault, identifier, undigested, fails⟩ := found
    obtain ⟨problem, unencodable, rfl⟩ := digestOf_eq_error undigested
    exact .inr ⟨field, member, problem, identifier, unencodable, by rw [payload, fails]; rfl⟩

/-- Emails and phones reach Meta as digests of their normal forms, and nothing else of them does:
every payload is shielded, lists of alike fields have one payload, and restyling an identifier that
is not empty changes no payload. -/
theorem identifiers_digested (account : MetaAccount) (channel : Channel) (event : Value)
    (s : Session ω) :
    let build := fun fields : Fields => ((sender account channel).build event fields).outcome s
    (∀ fields,
      (∃ built user custom, build fields = (.ok built, s) ∧
        Shielded s.now event fields built user custom) ∨
      ∃ field ∈ fields, ∃ problem,
        (identifies "email" field = true ∨ identifies "phone" field = true) ∧
        Text.encodeUtf8 (Text.lower (Text.trim field.2.text)) = .error problem ∧
        build fields = (.error (.unencodable problem), s)) ∧
    (∀ f g, List.Forall₂ Alike f g → build f = build g) ∧
    ∀ (front back : Fields) (name identifier restyled : Text), IsIdentifier name →
      identifier ≠ [] → Restyled identifier restyled →
      build (front ++ (name, .string identifier) :: back) =
        build (front ++ (name, .string restyled) :: back) := by
  intro build
  have congr (f g : Fields) (alike : List.Forall₂ Alike f g) : build f = build g := by
    simp only [build, build_run, payload_congr s.now event alike]
  refine ⟨fun fields => ?_, congr, fun front back name identifier restyled holds nonempty how => ?_⟩
  · simp only [build, build_run, Prod.mk.injEq, and_true]
    exact payload_shielded s.now event fields
  · refine congr _ _ (List.rel_append (alike_refl front) (.cons ?_ (alike_refl back)))
    exact alike_of_restyled holds nonempty how

/-- An email with blanks around it and one in capitals make the payload that the plain email
makes. -/
theorem identifiers_digested_email :
    let account : MetaAccount := ⟨.string "token", "1", "v18.0", .int 5⟩
    let build := fun fields : Fields =>
      ((sender account .store).build .null fields).outcome (Session.initial ())
    build [("email_path", .string "a@b.c")] = build [("email_path", .string " A@B.C\n")] ∧
      build [("email", .string "A@B.C")] = build [("email", .string "  A@B.C ")] := by
  intro account build
  obtain ⟨_, congr, restyle⟩ := identifiers_digested account .store .null (Session.initial ())
  constructor
  · refine congr _ _ (.cons ⟨rfl, .inr ⟨by decide, rfl, ?_⟩⟩ .nil)
    decide +kernel
  · refine restyle [] [] "email" "A@B.C" "  A@B.C " (by decide) (by decide) ?_
    exact .padded "  " " " (by decide) (by decide)

end Payloads

end ConversionRelay.MetaSender
