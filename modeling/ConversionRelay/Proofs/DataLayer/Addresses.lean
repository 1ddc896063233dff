import ConversionRelay.Proofs.DataLayer.Totality
import ConversionRelay.Proofs.Number.Decimal
/-!
Addresses of values in data layers.

An address says how to get to a value: by the keys of objects and by positions in lists. Written with
a dot between each two hops it is a path, unless a key holds a dot itself. Following that path leads
where the address leads, and a path that leads anywhere leads along the segments it is cut into. A
value that does not count as present is a value all the same; only null is what is missing.

Main statement: a path that spells an address reads as the value at the address, and whatever a path
reads as, null apart, is reached by one segment after the other (`DataLayer.read_addressed`).
-/
namespace ConversionRelay.DataLayer

open OrderedMap

section Digits

/-- A digit of ASCII has the value that it has in every number. -/
theorem decimalValue?_of_isDigit {c : CodePoint} (digit : c.isDigit = true) :
    Text.decimalValue? c = some c.digitValue := by
  obtain ⟨above, upTo⟩ := Decimal.code_of_isDigit digit
  have among : 0x30 ≤ c.code ∧ c.code < 0x30 + 10 := ⟨above, Nat.lt_succ_of_le upTo⟩
  rw [Text.decimalValue?, Text.decimalZeros, List.findSome?_cons, if_pos among]
  rfl

theorem naturalOf?_of_digits {s : Text} (digits : ∀ c ∈ s, c.isDigit = true) :
    Text.naturalOf? s = some (Text.plainNatural s) := by
  suffices each : ∀ acc : Nat,
      s.foldlM (fun acc c => (Text.decimalValue? c).map (acc * 10 + ·)) acc =
        some (s.foldl (fun acc c => acc * 10 + c.digitValue) acc) from each 0
  induction s with
  | nil => exact fun acc => rfl
  | cons c rest ih =>
    intro acc
    have later := ih fun other member => digits other (List.mem_cons_of_mem c member)
    rw [List.foldlM_cons, decimalValue?_of_isDigit (digits c List.mem_cons_self)]
    exact later _

variable (n : Nat)

/-- The digits of a number denote it as a position, too. -/
theorem naturalOf?_ofNat : Text.naturalOf? (Decimal.ofNat n) = some n := by
  rw [naturalOf?_of_digits Decimal.isDigit_of_mem_ofNat, Decimal.plainNatural_ofNat]

theorem isDigits_ofNat : Text.isDigits (Decimal.ofNat n) = true := by
  rw [Text.isDigits, List.isEmpty_eq_false_iff.mpr (Decimal.ofNat_ne_nil n), Bool.not_false,
    Bool.true_and, List.all_eq_true]
  intro c member
  rw [Text.isDigit, decimalValue?_of_isDigit (Decimal.isDigit_of_mem_ofNat c member)]
  rfl

/-- A number is refused as a position for nothing but the number of its digits. -/
theorem not_refused_ofNat (short : (Decimal.ofNat n).length ≤ Text.digitLimit) :
    ¬Refused (Decimal.ofNat n) := by
  intro refused
  rcases refused.numberless with valueless | tooLong
  · have numberless := naturalOf?_eq_none.mpr valueless
    rw [naturalOf?_ofNat] at numberless
    cases numberless
  · exact Nat.not_lt.mpr short tooLong

end Digits

section Addresses

/-- One hop of an address: to the field of a key without a dot, or to the item at a position. -/
inductive Hop where
  | key (name : Text) (plain : dot ∉ name)
  | position (n : Nat)

/-- What a hop is written as. A number with more digits than one is read with is not written. -/
def Hop.segment? : Hop → Option Text
  | key name _ => some name
  | position n =>
    if (Decimal.ofNat n).length ≤ Text.digitLimit then some (Decimal.ofNat n) else none

/-- The path that an address is written as. -/
def rendering? (address : List Hop) : Option Text :=
  (address.mapM Hop.segment?).map (Text.join [dot])

/-- An address leads from a value to another: a key to what an object binds it to, a position to the
item of a list that stands there. -/
inductive LeadsTo : Value → List Hop → Value → Prop
  | here (v : Value) : LeadsTo v [] v
  | field {fields : Fields} {name : Text} {plain : dot ∉ name} {next v : Value} {rest : List Hop}
      (bound : lookup? fields name = some next) (on : LeadsTo next rest v) :
      LeadsTo (.object fields) (.key name plain :: rest) v
  | item {items : List Value} {n : Nat} {next v : Value} {rest : List Hop}
      (within : items[n]? = some next) (on : LeadsTo next rest v) :
      LeadsTo (.array items) (.position n :: rest) v

/-- What a segment leads to: the field of that very name, or the item at the position that the
segment denotes, which is one of the list. -/
inductive Enters : Value → Text → Value → Prop
  | field {fields : Fields} {segment : Text} {v : Value}
      (bound : lookup? fields segment = some v) : Enters (.object fields) segment v
  | item {items : List Value} {segment : Text} {position : Nat} {v : Value}
      (digits : Text.isDigits segment = true) (fit : ¬Refused segment)
      (is : Text.naturalOf? segment = some position) (within : items[position]? = some v) :
      Enters (.array items) segment v

/-- What segments lead to, one after the other. -/
inductive Reaches : Value → List Text → Value → Prop
  | here (v : Value) : Reaches v [] v
  | further {layer next v : Value} {segment : Text} {rest : List Text}
      (enters : Enters layer segment next) (on : Reaches next rest v) :
      Reaches layer (segment :: rest) v

variable {layer v : Value} {address : List Hop} {segment : Text} {segments : List Text}

/-- No hop is written with a dot. -/
theorem not_mem_of_segment? {hop : Hop} (written : hop.segment? = some segment) :
    dot ∉ segment := by
  cases hop with
  | key name plain =>
    cases written
    exact plain
  | position n =>
    rw [Hop.segment?] at written
    split at written
    · cases written
      intro member
      have digit := Decimal.isDigit_of_mem_ofNat dot member
      cases digit
    · cases written

/-- A hop that leads to a value is written as a segment that leads there. -/
theorem enters_of_leadsTo {hop : Hop} {rest : List Hop} (leads : LeadsTo layer (hop :: rest) v)
    (written : hop.segment? = some segment) :
    ∃ next, Enters layer segment next ∧ LeadsTo next rest v := by
  cases leads with
  | field bound on =>
    cases written
    exact ⟨_, .field bound, on⟩
  | @item items n next _ _ within on =>
    rw [Hop.segment?] at written
    split at written
    · rename_i short
      cases written
      exact ⟨next, .item (isDigits_ofNat n) (not_refused_ofNat n short) (naturalOf?_ofNat n) within,
        on⟩
    · cases written

/-- An address leads where the segments lead that it is written as, and these hold no dot. -/
theorem reaches_of_leadsTo (written : address.mapM Hop.segment? = some segments)
    (leads : LeadsTo layer address v) :
    Reaches layer segments v ∧ ∀ segment ∈ segments, dot ∉ segment := by
  induction address generalizing layer segments with
  | nil =>
    cases written
    cases leads
    exact ⟨.here v, List.forall_mem_nil _⟩
  | cons hop rest ih =>
    rw [List.mapM_cons] at written
    obtain ⟨segment, own, written⟩ := Option.bind_eq_some_iff.mp written
    obtain ⟨others, later, written⟩ := Option.bind_eq_some_iff.mp written
    cases written
    obtain ⟨next, enters, on⟩ := enters_of_leadsTo leads own
    obtain ⟨reaches, apart⟩ := ih later on
    exact ⟨.further enters reaches, List.forall_mem_cons.mpr ⟨not_mem_of_segment? own, apart⟩⟩

end Addresses

section Reading

variable {layer v : Value} {segment : Text} {segments : List Text}

theorem step_of_enters (enters : Enters layer segment v) : step layer segment = .ok v := by
  cases enters with
  | field bound => rw [step_object, Value.fieldOf, bound, Option.getD_some]
  | @item items _ position _ digits fit is within =>
    obtain ⟨position', is', gives⟩ := itemAt_of_not_refused digits fit items
    cases is.symm.trans is'
    rw [step, if_pos digits, gives, List.getD_eq_getElem?_getD, within, Option.getD_some]

/-- A step enters what it leads to unless there is nothing for the segment. -/
theorem enters_or_lacks (steps : step layer segment = .ok v) :
    Enters layer segment v ∨ Lacks layer segment := by
  cases layer with
  | object fields =>
    cases bound : lookup? fields segment with
    | none => exact .inr (.unbound bound)
    | some w =>
      rw [step_of_enters (.field bound)] at steps
      cases steps
      exact .inl (.field bound)
  | array items =>
    cases digits : Text.isDigits segment with
    | false => exact .inr (.word digits)
    | true =>
      have fit : ¬Refused segment := by
        intro refused
        obtain ⟨fault, fails⟩ := step_of_refused refused items
        rw [fails] at steps
        cases steps
      obtain ⟨position, is, _⟩ := itemAt_of_not_refused digits fit items
      cases within : items[position]? with
      | none => exact .inr (.beyond digits fit is (List.getElem?_eq_none_iff.mp within))
      | some w =>
        rw [step_of_enters (.item digits fit is within)] at steps
        cases steps
        exact .inl (.item digits fit is within)
  | _ => exact .inr (.flat rfl rfl)

/-- A step to anything but null is one to a field or to an item of a list. -/
theorem enters_of_step (steps : step layer segment = .ok v) (found : v.isNull = false) :
    Enters layer segment v := by
  rcases enters_or_lacks steps with enters | lacks
  · exact enters
  · rw [step_of_lacks lacks] at steps
    cases steps
    cases found

theorem walk_of_reaches (reaches : Reaches layer segments v) : walk layer segments = .ok v := by
  induction reaches with
  | here v => rfl
  | further enters on ih =>
    rw [walk, List.foldlM_cons, step_of_enters enters]
    exact ih

/-- A walk that ends anywhere but at null never passes null, so each of its steps entered a
collection. -/
theorem reaches_of_walk (walks : walk layer segments = .ok v) (found : v.isNull = false) :
    Reaches layer segments v := by
  induction segments generalizing layer with
  | nil =>
    cases walks
    exact .here v
  | cons segment rest ih =>
    rw [walk, List.foldlM_cons] at walks
    cases steps : step layer segment with
    | error fault =>
      rw [steps] at walks
      cases walks
    | ok next =>
      rw [steps] at walks
      have on : walk next rest = .ok v := walks
      have shown : next.isNull = false := by
        cases next with
        | null =>
          rw [walk_null] at on
          cases on
          cases found
        | _ => rfl
      exact .further (enters_of_step steps shown) (ih on)

/-- What has a field or an item counts as present. -/
theorem isTruthy_of_enters (enters : Enters layer segment v) : layer.isTruthy = true := by
  cases enters with
  | @field fields _ _ bound =>
    cases fields with
    | nil => cases bound
    | cons field rest => rfl
  | @item items _ position _ _ _ _ within =>
    cases items with
    | nil => cases within
    | cons first rest => rfl

end Reading

/-- A path that spells an address reads as the value that the address leads to, be it one that does
not count as present. Whatever a path reads as, null apart, is reached by one segment of it after the
other. -/
theorem read_addressed (layer : Value) :
    (∀ address path v, rendering? address = some path → path ≠ [] → LeadsTo layer address v →
      read layer (.string path) = .ok v) ∧
    ∀ path v, read layer (.string path) = .ok v → v ≠ .null →
      Reaches layer (Text.cut dot path) v := by
  constructor
  · intro address path v written nonempty leads
    obtain ⟨segments, each, rfl⟩ := Option.map_eq_some_iff.mp written
    obtain ⟨reaches, apart⟩ := reaches_of_leadsTo each leads
    cases reaches with
    | here => exact absurd rfl nonempty
    | further enters on =>
      rw [read_path (isTruthy_of_enters enters) nonempty, Text.cut_join (List.cons_ne_nil _ _) apart]
      exact walk_of_reaches (.further enters on)
  · intro path v reads notNull
    have found : v.isNull = false := by
      cases v with
      | null => exact absurd rfl notNull
      | _ => rfl
    by_cases walked : layer.isTruthy = true ∧ path ≠ []
    · rw [read_path walked.1 walked.2] at reads
      exact reaches_of_walk reads found
    · rw [read_absent walked] at reads
      cases reads
      cases found

/-- The price of the second item is zero, and it is read as that. -/
theorem read_addressed_free_item :
    let layer : Value := .object [("items", .array [.null, .object [("price", .int 0)]])]
    let address : List Hop := [.key "items" (by decide), .position 1, .key "price" (by decide)]
    rendering? address = some "items.1.price" ∧ LeadsTo layer address (.int 0) ∧
      read layer (.string "items.1.price") = .ok (.int 0) ∧
      Reaches layer (["items", "1", "price"] : List Text) (.int 0) := by
  intro layer address
  obtain ⟨complete, sound⟩ := read_addressed layer
  have written : rendering? address = some "items.1.price" := rfl
  have leads : LeadsTo layer address (.int 0) := .field rfl (.item rfl (.field rfl (.here _)))
  have reads := complete address "items.1.price" (.int 0) written nofun leads
  exact ⟨written, leads, reads, sound "items.1.price" (.int 0) reads nofun⟩

end ConversionRelay.DataLayer
