import ConversionRelay.Proofs.Json.Number
import ConversionRelay.Proofs.Sender.Digests
/-!
Which identifiers of people are sent.

Whether an identifier counts as present is asked of the identifier as it came, while what is sent of
it is made of its normal form. The two differ for one kind of value only: a text of nothing but
blanks is there, but its normal form is empty. Such a text takes its slot as any other identifier
does, with the digest of the empty text, which is the same for everyone; it even takes the place of
an identifier that another field has brought before.

Main statement: a slot is filled just where a field brings an identifier with a normal form or a
text of blanks, and a text of blanks that comes last leaves the digest of nothing there
(`identifiers_sent`).
-/
namespace ConversionRelay

open Text

section Literals

theorem Text.isBlank_of_isDigit {c : CodePoint} (digit : c.isDigit = true) :
    isBlank c = false := by
  have range := Decimal.code_of_isDigit digit
  simp only [isBlank, inRanges, blanks, List.any_cons, List.any_nil, Bool.or_false,
    Bool.or_eq_false_iff, Bool.and_eq_false_iff, decide_eq_false_iff_not]
  omega

/-- Something in a text is no blank. -/
def Text.Visible (s : Text) : Prop := ∃ c ∈ s, isBlank c = false

theorem Text.Visible.cons {s : Text} (visible : s.Visible) (c : CodePoint) :
    Visible (c :: s) := by
  obtain ⟨d, member, unblank⟩ := visible
  exact ⟨d, List.mem_cons_of_mem c member, unblank⟩

theorem Text.visible_of_opens {s : Text} (opens : ∃ c rest, s = c :: rest ∧ c.isDigit = true) :
    s.Visible := by
  obtain ⟨c, rest, rfl, digit⟩ := opens
  exact ⟨c, List.mem_cons_self, isBlank_of_isDigit digit⟩

theorem Decimal.visible_ofInt (n : Int) : (ofInt n).Visible := by
  have digits : (ofNat n.natAbs).Visible := by
    obtain ⟨c, rest, is⟩ := List.exists_cons_of_ne_nil (ofNat_ne_nil n.natAbs)
    exact visible_of_opens ⟨c, rest, is, isDigit_of_mem_ofNat c (is ▸ List.mem_cons_self)⟩
  unfold ofInt
  split
  · exact digits.cons _
  · exact digits

theorem DecimalStyle.visible_write {style : DecimalStyle} (words : style.notANumber.Visible)
    (words' : style.infinite.Visible) (x : Binary64) : (style.write x).Visible := by
  have signed {size : Text} (visible : size.Visible) :
      Visible (if x.negative then CodePoint.char '-' :: size else size) := by
    split
    · exact visible.cons _
    · exact visible
  unfold write
  split
  · exact words
  apply signed
  split
  · exact words'
  rename_i finite
  split
  · exact ⟨.char '0', by decide, by decide⟩
  · rename_i present
    exact visible_of_opens (Json.ofMagnitude_opens style (by simpa using finite)
      (Bool.eq_false_of_not_eq_true present))

/-- The literal of a value is never blank. -/
theorem Value.visible_literal (v : Value) : v.literal.Visible := by
  cases v with
  | null => exact ⟨.char 'N', by decide, by decide⟩
  | bool b =>
    cases b with
    | true => exact ⟨.char 'T', by decide, by decide⟩
    | false => exact ⟨.char 'F', by decide, by decide⟩
  | int n => exact Decimal.visible_ofInt n
  | double x =>
    exact DecimalStyle.visible_write ⟨.char 'n', by decide, by decide⟩
      ⟨.char 'i', by decide, by decide⟩ x
  | string s =>
    refine ⟨quoteFor s, List.mem_cons_self, ?_⟩
    unfold quoteFor
    split <;> decide
  | array items => exact ⟨.char '[', by simp [literal, Text.ofString], by decide⟩
  | object fields => exact ⟨.char '\x7b', by simp [literal, Text.ofString], by decide⟩

end Literals

namespace MetaSender

open OrderedMap

variable {ω : Type} {name : Text} {fields : Fields}

section Blanks

/-- The normal form of a value is empty just where the value is a text of nothing but blanks. -/
theorem normalForm_eq_nil {v : Value} :
    normalForm v = [] ↔ ∃ s, v = .string s ∧ ∀ c ∈ s, isBlank c = true := by
  rw [normalForm, lower_eq_nil, trim_eq_nil]
  constructor
  · intro blank
    have literal {v : Value} (blank : ∀ c ∈ v.literal, isBlank c = true) : False := by
      obtain ⟨c, member, unblank⟩ := v.visible_literal
      exact Bool.false_ne_true (unblank.symm.trans (blank c member))
    cases v with
    | string s => exact ⟨s, rfl, blank⟩
    | _ => exact (literal blank).elim
  · rintro ⟨s, rfl, blank⟩
    exact blank

/-- A field that brings an identifier with a normal form. -/
def Names (name : Text) (field : Text × Value) : Prop :=
  nameOf field.1 = name ∧ field.2.isTruthy = true ∧ lower (trim field.2.text) ≠ []

/-- A field that brings a text of blanks where an identifier is expected. -/
def Blank (name : Text) (field : Text × Value) : Prop :=
  nameOf field.1 = name ∧ ∃ s, field.2 = .string s ∧ s ≠ [] ∧ ∀ c ∈ s, isBlank c = true

/-- What counts as present has a normal form or is a text of blanks. -/
theorem identifies_iff {field : Text × Value} :
    identifies name field = true ↔ Names name field ∨ Blank name field := by
  simp only [identifies, Bool.and_eq_true, beq_iff_eq]
  constructor
  · rintro ⟨goes, present⟩
    by_cases empty : normalForm field.2 = []
    · obtain ⟨s, is, blank⟩ := normalForm_eq_nil.mp empty
      refine .inr ⟨goes, s, is, ?_, blank⟩
      rintro rfl
      rw [is] at present
      exact Bool.false_ne_true present
    · exact .inl ⟨goes, present, empty⟩
  · rintro (⟨goes, present, _⟩ | ⟨goes, s, is, nonempty, _⟩)
    · exact ⟨goes, present⟩
    · exact ⟨goes, is ▸ Value.isTruthy_string nonempty⟩

end Blanks

section Sending

theorem lastIdentifier?_eq_none :
    lastIdentifier? name fields = none ↔ ∀ field ∈ fields, identifies name field = false := by
  rw [lastIdentifier?, Option.map_eq_none_iff, List.getLast?_eq_none_iff, List.filter_eq_nil_iff]
  exact forall₂_congr fun _ _ => Iff.of_eq (Bool.not_eq_true _)

/-- The digest of the empty text, which is that of every text of blanks. -/
def digestOfNothing : Text := "e3b0c44298fc1c149afbf4c8996fb92427ae41e4649b934ca495991b7852b855"

theorem ofText_nil : Digest.ofText [] = .ok digestOfNothing := by
  have computed : ((Digest.sha256 []).flatMap fun w => hex 8 w.toNat) = digestOfNothing := by
    decide +kernel
  exact congrArg Except.ok computed

/-- What the slot of a name holds: nothing, the digest of the normal form that the last identifier
has, or the digest of nothing where the last identifier is a text of blanks. -/
inductive Holds (name : Text) (fields : Fields) : Option Value → Prop
  | nothing (absent : ∀ field ∈ fields, ¬(Names name field ∨ Blank name field)) :
      Holds name fields none
  | named {identifier : Value} {digest : Text}
      (last : lastIdentifier? name fields = some identifier)
      (left : lower (trim identifier.text) ≠ [])
      (is : Digest.ofText (lower (trim identifier.text)) = .ok digest) :
      Holds name fields (some (.array [.string digest]))
  | blank {s : Text} (last : lastIdentifier? name fields = some (.string s))
      (blank : ∀ c ∈ s, isBlank c = true) :
      Holds name fields (some (.array [.string digestOfNothing]))

theorem Digested.holds {slot : Option Value}
    (digested : Digested (lastIdentifier? name fields) slot) : Holds name fields slot := by
  cases last : lastIdentifier? name fields with
  | none =>
    rw [last] at digested
    have empty : slot = none := digested
    rw [empty]
    refine .nothing fun field member brings => ?_
    have absent := lastIdentifier?_eq_none.mp last field member
    exact Bool.false_ne_true (absent.symm.trans (identifies_iff.mpr brings))
  | some identifier =>
    rw [last] at digested
    obtain ⟨digest, is, rfl⟩ := digested
    by_cases empty : normalForm identifier = []
    · obtain ⟨s, rfl, blank⟩ := normalForm_eq_nil.mp empty
      have same : Digest.ofText [] = .ok digest := empty ▸ is
      rw [ofText_nil] at same
      cases same
      exact .blank last blank
    · exact .named last empty is

theorem brings_of_lastIdentifier? {identifier : Value}
    (last : lastIdentifier? name fields = some identifier) :
    ∃ field ∈ fields, Names name field ∨ Blank name field := by
  obtain ⟨field, isLast, _⟩ := Option.map_eq_some_iff.mp last
  obtain ⟨member, goes⟩ := List.mem_filter.mp (List.mem_of_getLast? isLast)
  exact ⟨field, member, identifies_iff.mp goes⟩

/-- A slot is filled just where a field brings something for it. -/
theorem Holds.isSome_iff {slot : Option Value} (holds : Holds name fields slot) :
    slot.isSome = true ↔ ∃ field ∈ fields, Names name field ∨ Blank name field := by
  cases holds with
  | nothing absent =>
    refine iff_of_false Bool.false_ne_true ?_
    rintro ⟨field, member, brings⟩
    exact absent field member brings
  | named last => exact iff_of_true rfl (brings_of_lastIdentifier? last)
  | blank last => exact iff_of_true rfl (brings_of_lastIdentifier? last)

/-- Identifiers are sent if they count as present, whether or not anything is left of them: the slot
of a name is filled just where a field of the name brings an identifier with a normal form or a text
of blanks, and it holds the digest of what is left of the last one. Only an identifier that has no
bytes keeps an event from being built. -/
theorem identifiers_sent (account : MetaAccount) (channel : Channel) (event : Value)
    (fields : Fields) (s : Session ω) :
    let build := ((sender account channel).build event fields).outcome s
    (∃ built user custom, build = (.ok built, s) ∧
      Shielded s.now event fields built user custom ∧
      (Holds "email" fields (lookup? user "em") ∧ Holds "phone" fields (lookup? user "ph")) ∧
      ((lookup? user "em").isSome = true ↔
        ∃ field ∈ fields, Names "email" field ∨ Blank "email" field) ∧
      ((lookup? user "ph").isSome = true ↔
        ∃ field ∈ fields, Names "phone" field ∨ Blank "phone" field)) ∨
    ∃ field ∈ fields, ∃ problem, (Names "email" field ∨ Names "phone" field) ∧
      encodeUtf8 (lower (trim field.2.text)) = .error problem ∧
      build = (.error (.unencodable problem), s) := by
  intro build
  rcases payload_shielded s.now event fields with ⟨built, user, custom, is, shielded⟩ | fails
  · exact .inl ⟨built, user, custom, by rw [← is]; rfl, shielded,
      ⟨shielded.email.holds, shielded.phone.holds⟩, shielded.email.holds.isSome_iff,
      shielded.phone.holds.isSome_iff⟩
  · obtain ⟨field, member, problem, identifier, unencodable, is⟩ := fails
    have left : lower (trim field.2.text) ≠ [] := by
      intro empty
      rw [empty] at unencodable
      cases unencodable
    have named {name : Text} (goes : identifies name field = true) : Names name field := by
      simp only [identifies, Bool.and_eq_true, beq_iff_eq] at goes
      exact ⟨goes.1, goes.2, left⟩
    exact .inr ⟨field, member, problem, identifier.imp named named, unencodable, by rw [← is]; rfl⟩

/-- An email of one blank is sent as the digest of nothing, though no field brings an identifier
that has a normal form. -/
theorem blank_identifier_sent :
    let account : MetaAccount := ⟨.string "token", "1", "v18.0", .int 5⟩
    let fields : Fields := [("email_path", .string " ")]
    (((sender account .store).build (.string "lead") fields).outcome (Session.initial ())).1 =
        .ok [
          ("event_name", .string "lead"),
          ("event_time", .int 0),
          ("action_source", .string "website"),
          ("user_data", .object [("em", .array [.string digestOfNothing])]),
          ("custom_data", .object [])] ∧
      ¬∃ field ∈ fields, Names "email" field := by
  intro account fields
  constructor
  · have started : (Session.initial ()).now.unixSeconds = 0 := by decide +kernel
    have digested : digestOf (.string " ") = .ok digestOfNothing :=
      congrArg (Except.mapError Fault.unencodable) ofText_nil
    have routed : fields.foldlM route ⟨[], []⟩ =
        .ok ⟨[("em", .array [.string digestOfNothing])], []⟩ := by
      have identified : route ⟨[], []⟩ ("email_path", .string " ") =
          .ok ⟨[("em", .array [.string digestOfNothing])], []⟩ := by
        change Routed.identify ⟨[], []⟩ "em" (.string " ") = _
        rw [Routed.identify, digested]
        rfl
      rw [List.foldlM_cons, identified]
      rfl
    rw [build_run, payload, routed, started]
    rfl
  · rintro ⟨field, member, _, _, left⟩
    rw [List.mem_singleton.mp member] at left
    exact left (by decide)

end Sending

end MetaSender

end ConversionRelay
