import ConversionRelay.Proofs.Json.Number
import ConversionRelay.Proofs.Json.Reading
import Mathlib.Data.List.Chain
/-!
The values that JSON documents hold.

What a reader returns is nested no deeper than it allows, has integers of no more digits than it
allows, and objects that bind each of their keys once. All of it is legible again. Where no text in
it has a high half of a surrogate pair right before a low one, it is read back as it is; where one
has, it is so from the first reading on.

Main statements: what is read is a document (`document_of_parse`), a document with its halves apart
is read back as itself (`Document.reread_eq_self`), and reading leaves all halves apart
(`Document.halvesApart_reread`).
-/
namespace ConversionRelay

namespace Text

/-- No high half of a surrogate pair stands right before a low one. -/
def HalvesApart (s : Text) : Prop := List.IsChain (fun c d => (c.isHigh && d.isLow) = false) s

instance (s : Text) : Decidable s.HalvesApart := inferInstanceAs (Decidable (List.IsChain _ s))

theorem HalvesApart.paired_eq_self {s : Text} (apart : s.HalvesApart) : paired s = s := by
  refine paired_of_apart fun before c d after same => ?_
  subst same
  exact (List.isChain_append_cons_cons.mp apart).2.1

/-- The character that two units encode is neither half of a pair. -/
theorem not_half_ofPair (high low : Nat) :
    (Json.ofPair high low).isHigh = false ∧ (Json.ofPair high low).isLow = false := by
  obtain ⟨noHigh, noLow⟩ :=
    CodePoint.half_ofCode (0x10000 + (high - 0xd800) * 0x400 + (low - 0xdc00))
  rw [Json.ofPair, noHigh, noLow]
  simp only [Bool.and_eq_false_iff, decide_eq_false_iff_not]
  omega

/-- A low half that comes first after joining came first before. -/
theorem head?_of_paired {s : Text} {next : CodePoint} (first : (paired s).head? = some next)
    (isLow : next.isLow = true) : s.head? = some next := by
  cases s using paired.fun_cases with
  | case1 => exact first
  | case2 c => exact first
  | case3 c d rest both =>
    rw [paired_joined both, List.head?_cons, Option.some.injEq] at first
    rw [← first] at isLow
    obtain ⟨_, noLow⟩ := not_half_ofPair c.code d.code
    exact absurd isLow (ne_true_of_eq_false noLow)
  | case4 c d rest separate =>
    rw [paired_separate separate] at first
    exact first

/-- Joining neighbours leaves none to join. -/
theorem halvesApart_paired (s : Text) : (paired s).HalvesApart := by
  induction s using paired.induct with
  | case1 => exact .nil
  | case2 c => exact .singleton c
  | case3 c d rest both ih =>
    obtain ⟨noHigh, _⟩ := not_half_ofPair c.code d.code
    rw [paired_joined both]
    exact List.isChain_cons.mpr ⟨fun _ _ => by rw [noHigh, Bool.false_and], ih⟩
  | case4 c d rest separate ih =>
    rw [paired_separate separate]
    refine List.isChain_cons.mpr ⟨fun next first => ?_, ih⟩
    cases isLow : next.isLow with
    | false => exact Bool.and_false _
    | true =>
      cases head?_of_paired first isLow
      rw [← isLow]
      exact eq_false_of_ne_true separate

end Text

namespace Json

open Text

section Documents

/-- The values that a document within the limits of a reader holds, inside so many collections. -/
inductive Document (limits : Limits) : (room : Nat) → Value → Prop
  | null (room : Nat) : Document limits room .null
  | bool (room : Nat) (b : Bool) : Document limits room (.bool b)
  | int (room : Nat) (n : Int) (short : (Decimal.ofNat n.natAbs).length ≤ limits.digits) :
      Document limits room (.int n)
  | double (room : Nat) (x : Binary64) (number : x.isNaN = true → x = .nan 0) :
      Document limits room (.double x)
  | string (room : Nat) (s : Text) : Document limits room (.string s)
  | array (room : Nat) (items : List Value) (each : ∀ v ∈ items, Document limits room v) :
      Document limits (room + 1) (.array items)
  | object (room : Nat) (fields : Fields) (distinct : OrderedMap.Distinct fields)
      (each : ∀ field ∈ fields, Document limits room field.2) :
      Document limits (room + 1) (.object fields)

variable {limits : Limits} {room : Nat}

theorem scalarText_nan : ScalarText limits (numberStyle.write (.nan 0)) (.double (.nan 0)) :=
  have word : ScalarText limits "NaN" (.double (.nan 0)) :=
    scalarText_of_word (by decide) fun _ => rfl
  word

/-- A document is legible. -/
theorem Document.legible {v : Value} (document : Document limits room v) :
    Legible limits room v := by
  induction document with
  | null room => exact .null room
  | bool room b => exact .bool room b
  | int room n short => exact .int room n (scalarText_int short)
  | double room x number =>
    cases isNumber : x.isNaN with
    | false => exact .double room x (scalarText_double isNumber)
    | true =>
      rw [number isNumber]
      exact .double room _ scalarText_nan
  | string room s => exact .string room s
  | array room items _ ih => exact .array room items ih
  | object room fields _ _ ih => exact .object room fields ih

/-- A document may stand inside fewer collections. -/
theorem Document.mono {room' : Nat} {v : Value} (document : Document limits room v)
    (le : room ≤ room') : Document limits room' v := by
  induction document generalizing room' with
  | null room => exact .null room'
  | bool room b => exact .bool room' b
  | int room n short => exact .int room' n short
  | double room x number => exact .double room' x number
  | string room s => exact .string room' s
  | array room items _ ih =>
    obtain ⟨own, rfl⟩ := Nat.exists_eq_add_one_of_ne_zero (Nat.ne_of_gt (Nat.zero_lt_of_lt le))
    exact .array own items fun v member => ih v member (Nat.le_of_succ_le_succ le)
  | object room fields distinct _ ih =>
    obtain ⟨own, rfl⟩ := Nat.exists_eq_add_one_of_ne_zero (Nat.ne_of_gt (Nat.zero_lt_of_lt le))
    exact .object own fields distinct fun field member =>
      ih field member (Nat.le_of_succ_le_succ le)

end Documents

section Reading

variable {limits : Limits}

theorem digits_of_takeWhole {s whole after : Text} (taken : takeWhole s = some (whole, after)) :
    (∀ c ∈ whole, c.isDigit = true) ∧ whole ≠ [] := by
  cases s with
  | nil => cases taken
  | cons c rest =>
    simp only [takeWhole] at taken
    split at taken
    · rename_i zero
      cases taken
      subst zero
      decide
    · split at taken
      · rename_i digit
        cases taken
        refine ⟨fun d member => ?_, List.cons_ne_nil _ _⟩
        rcases List.mem_cons.mp member with rfl | later
        · exact digit
        · exact List.mem_takeWhile_imp later
      · cases taken

theorem document_of_readUnsigned {negative : Bool} {start s : Text} {v : Value} {rest : Text}
    (read : readUnsigned limits negative start s = .ok (v, rest)) (room : Nat) :
    Document limits room v := by
  unfold readUnsigned at read
  split at read
  · cases read
  rename_i whole afterWhole taken
  dsimp only at read
  split at read
  · unfold integerOf at read
    split at read
    · cases read
    · rename_i short
      cases read
      obtain ⟨digits, nonempty⟩ := digits_of_takeWhole taken
      have size : (if negative then -(plainNatural whole : Int) else plainNatural whole).natAbs =
          plainNatural whole := by
        cases negative
        · exact Int.natAbs_natCast _
        · exact (Int.natAbs_neg _).trans (Int.natAbs_natCast _)
      refine .int room _ ?_
      rw [size]
      exact (Decimal.length_ofNat_le digits nonempty).trans (Nat.le_of_not_lt short)
  · cases read
    exact .double room _ fun nan => absurd nan (by rw [Binary64.isNaN_ofDecimal]; decide)

theorem document_of_word {word : Text × Value} (known : word ∈ words) (room : Nat) :
    Document limits room word.2 := by
  simp only [words, List.mem_cons, List.not_mem_nil, or_false] at known
  rcases known with rfl | rfl | rfl | rfl | rfl | rfl
  · exact .null room
  · exact .bool room true
  · exact .bool room false
  · exact .double room _ fun _ => rfl
  · exact .double room _ fun nan => absurd nan (by decide)
  · exact .double room _ fun nan => absurd nan (by decide)

theorem document_of_readScalar {s : Text} {v : Value} {rest : Text}
    (read : readScalar limits s = .ok (v, rest)) (room : Nat) : Document limits room v := by
  obtain ⟨word, known, rfl, _⟩ | ⟨_, _, _, _, number⟩ := readScalar_cases read
  · exact document_of_word known room
  · exact document_of_readUnsigned number room

/-- Documents are closed under the rules of the readers. -/
theorem closed_document (limits : Limits) :
    Closed limits (fun room _ v _ => Document limits room v)
      (fun room _ items _ => ∀ v ∈ items, Document limits room v)
      (fun room _ fields _ => ∀ field ∈ fields, Document limits room field.2) where
  string _ := .string _ _
  scalar read := document_of_readScalar read _
  noFields _ := .object _ [] List.nodup_nil (List.forall_mem_nil _)
  object each := .object _ _ (OrderedMap.distinct_ofPairs _) fun field member =>
    each field (OrderedMap.mem_of_mem_ofPairs member)
  noItems _ := .array _ [] (List.forall_mem_nil _)
  array each := .array _ _ each
  lastItem item _ := List.forall_mem_singleton.mpr item
  item first _ others := List.forall_mem_cons.mpr ⟨first, others⟩
  lastField _ item _ := List.forall_mem_singleton.mpr item
  field _ first _ others := List.forall_mem_cons.mpr ⟨first, others⟩

/-- What is read of a text is a document within the limits of its reader. -/
theorem document_of_parse {text : Text} {v : Value} (read : parse text = .ok v) :
    Document Limits.standard Limits.standard.nesting v := by
  obtain ⟨rest, value, _⟩ := readValue_of_parse read
  exact ((closed_document _).readings _).value value

end Reading

section Rereading

/-- No text in a value, the keys of its objects included, has two halves to join. -/
inductive HalvesApart : Value → Prop
  | null : HalvesApart .null
  | bool (b : Bool) : HalvesApart (.bool b)
  | int (n : Int) : HalvesApart (.int n)
  | double (x : Binary64) : HalvesApart (.double x)
  | string (s : Text) (apart : s.HalvesApart) : HalvesApart (.string s)
  | array (items : List Value) (each : ∀ v ∈ items, HalvesApart v) : HalvesApart (.array items)
  | object (fields : Fields) (keys : ∀ field ∈ fields, field.1.HalvesApart)
      (each : ∀ field ∈ fields, HalvesApart field.2) : HalvesApart (.object fields)

variable {limits : Limits} {room : Nat}

/-- A document that has no halves to join is read back as itself. -/
theorem Document.reread_eq_self {v : Value} (document : Document limits room v)
    (apart : HalvesApart v) : reread v = v := by
  induction document with
  | null room => rfl
  | bool room b => rfl
  | int room n short => rfl
  | double room x number => rfl
  | string room s =>
    cases apart with
    | string s apart => rw [reread, apart.paired_eq_self]
  | array room items _ ih =>
    cases apart with
    | array items each =>
      have same : items.map reread = items :=
        (List.map_congr_left fun v member => ih v member (each v member)).trans (List.map_id items)
      rw [reread, rereadItems_eq_map, same]
  | object room fields distinct _ ih =>
    cases apart with
    | object fields keys each =>
      have same : (fields.map fun field => (paired field.1, reread field.2)) = fields :=
        (List.map_congr_left fun field member => Prod.ext (keys field member).paired_eq_self
          (ih field member (each field member))).trans (List.map_id fields)
      rw [reread, rereadFields_eq_map, same, OrderedMap.ofPairs, OrderedMap.update_of_distinct]
      · rfl
      · exact distinct

/-- Reading keeps a document within the limits. -/
theorem Document.reread {v : Value} (document : Document limits room v) :
    Document limits room (Json.reread v) := by
  induction document with
  | null room => exact .null room
  | bool room b => exact .bool room b
  | int room n short => exact .int room n short
  | double room x number => exact .double room x number
  | string room s => exact .string room _
  | array room items _ ih =>
    rw [Json.reread, rereadItems_eq_map]
    exact .array room _ (List.forall_mem_map.mpr ih)
  | object room fields _ _ ih =>
    rw [Json.reread, rereadFields_eq_map]
    refine .object room _ (OrderedMap.distinct_ofPairs _) fun field member => ?_
    obtain ⟨own, isOwn, rfl⟩ := List.mem_map.mp (OrderedMap.mem_of_mem_ofPairs member)
    exact ih own isOwn

/-- Reading leaves no halves to join. -/
theorem Document.halvesApart_reread {v : Value} (document : Document limits room v) :
    HalvesApart (Json.reread v) := by
  induction document with
  | null room => exact .null
  | bool room b => exact .bool b
  | int room n short => exact .int n
  | double room x number => exact .double x
  | string room s => exact .string _ (halvesApart_paired s)
  | array room items _ ih =>
    rw [Json.reread, rereadItems_eq_map]
    exact .array _ (List.forall_mem_map.mpr ih)
  | object room fields _ _ ih =>
    rw [Json.reread, rereadFields_eq_map]
    refine .object _ (fun field member => ?_) fun field member => ?_
    · obtain ⟨own, isOwn, rfl⟩ := List.mem_map.mp (OrderedMap.mem_of_mem_ofPairs member)
      exact halvesApart_paired own.1
    · obtain ⟨own, isOwn, rfl⟩ := List.mem_map.mp (OrderedMap.mem_of_mem_ofPairs member)
      exact ih own isOwn

end Rereading

end Json

end ConversionRelay
