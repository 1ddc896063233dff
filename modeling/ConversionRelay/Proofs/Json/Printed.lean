import ConversionRelay.Json.Printer
import ConversionRelay.Proofs.Number.Decimal
/-!
What a written text is made of.

A layout that escapes what is beyond ASCII writes blanks and visible characters of ASCII only, and
line feeds where it indents. So a text on one line has no line break in it, and any other can be put
into a file and is found there as it is. Every piece is written in front of the text that follows
it, so what is shown of each piece is that it adds nothing else to what follows.

Main statements: an escaped text consists of what its layout writes (`written_print`), so of shown
characters if it stands on one line (`shown_print`), and of printed characters in any case
(`printed_print`).
-/
namespace ConversionRelay.Json

open Decimal Text

/-- A blank or a visible character of ASCII. -/
def IsShown (c : CodePoint) : Prop := 0x20 ≤ c.code ∧ c.code < 0x7f

instance : DecidablePred IsShown := fun c => by unfold IsShown; infer_instance

/-- A text of such characters. -/
def Shown (s : Text) : Prop := ∀ c ∈ s, IsShown c

instance : DecidablePred Shown := fun s => by unfold Shown; infer_instance

theorem Shown.append {s t : Text} (first : Shown s) (second : Shown t) : Shown (s ++ t) :=
  List.forall_mem_append.mpr ⟨first, second⟩

theorem Shown.cons {c : CodePoint} {s : Text} (first : IsShown c) (others : Shown s) :
    Shown (c :: s) :=
  List.forall_mem_cons.mpr ⟨first, others⟩

theorem Shown.of_subset {s t : Text} (shown : Shown t) (subset : s ⊆ t) : Shown s :=
  fun c member => shown c (subset member)

/-- A character that is written where others are escaped: no half of a surrogate pair, and no line
break but the line feed. -/
def IsPrinted (c : CodePoint) : Prop := c.isSurrogate = false ∧ c ≠ '\r'

instance : DecidablePred IsPrinted := fun c => by unfold IsPrinted; infer_instance

/-- A text of such characters. -/
def Printed (s : Text) : Prop := ∀ c ∈ s, IsPrinted c

instance : DecidablePred Printed := fun s => by unfold Printed; infer_instance

theorem IsShown.isPrinted {c : CodePoint} (shown : IsShown c) : IsPrinted c := by
  obtain ⟨above, below⟩ := shown
  cases c with
  | surrogate half =>
    simp only [CodePoint.code, CodePoint.firstSurrogate] at below
    omega
  | char c =>
    refine ⟨rfl, fun same => ?_⟩
    rw [same] at above
    exact absurd above (by decide)

section Numbers

theorem shown_of_digits {s : Text} (digits : ∀ c ∈ s, c.isDigit = true) : Shown s := by
  intro c member
  obtain ⟨above, upTo⟩ := code_of_isDigit (digits c member)
  constructor <;> omega

theorem shown_ofNat (n : Nat) : Shown (ofNat n) := shown_of_digits isDigit_of_mem_ofNat

theorem shown_ofInt (n : Int) : Shown (ofInt n) := by
  unfold ofInt
  split
  · exact (shown_ofNat _).cons (by decide)
  · exact shown_ofNat _

theorem shown_positional {ds : Text} (digits : Shown ds) (lead : Int) :
    Shown (DecimalStyle.positional ds lead) := by
  have zeros (count : Nat) : Shown (zeros count) := shown_of_digits isDigit_of_mem_zeros
  unfold DecimalStyle.positional
  split
  · exact (Shown.append (by decide) (zeros _)).append digits
  · dsimp only
    split
    · exact (digits.append (zeros _)).append (by decide)
    · exact ((digits.of_subset (List.take_subset _ _)).append (by decide)).append
        (digits.of_subset (List.drop_subset _ _))

theorem shown_mantissa {ds : Text} (digits : Shown ds) : Shown (mantissa ds) := by
  unfold mantissa
  split
  · exact digits
  · exact digits
  · obtain ⟨first, others⟩ := List.forall_mem_cons.mp digits
    exact (Shown.cons (by decide) others).cons first

theorem shown_exponent (width : Nat) (power : Int) : Shown (exponent width power) := by
  have digits : Shown (padded width power.natAbs) := shown_of_digits isDigit_of_mem_padded
  unfold exponent
  split
  · exact Shown.append (by decide) digits
  · exact Shown.append (by decide) digits

theorem shown_ofMagnitude (style : DecimalStyle) (x : Binary64) :
    Shown (style.ofMagnitude x) := by
  unfold DecimalStyle.ofMagnitude
  dsimp only
  split
  · exact shown_positional (shown_ofNat _) _
  · exact (shown_mantissa (shown_ofNat _)).append (shown_exponent _ _)

theorem shown_number (x : Binary64) : Shown (numberStyle.write x) := by
  have signed {size : Text} (shown : Shown size) :
      Shown (if x.negative then CodePoint.char '-' :: size else size) := by
    split
    · exact shown.cons (by decide)
    · exact shown
  unfold DecimalStyle.write
  split
  · decide
  · apply signed
    split
    · decide
    · split
      · decide
      · exact shown_ofMagnitude numberStyle x

end Numbers

section Strings

theorem shown_hex (width n : Nat) : Shown (hex width n) := by
  have digit : ∀ d, d < 16 → IsShown (hexDigit d) := by decide
  induction width generalizing n with
  | zero => exact List.forall_mem_nil _
  | succ width ih =>
    exact (ih _).append (List.forall_mem_singleton.mpr (digit _ (Nat.mod_lt _ (by decide))))

theorem shown_unitEscapes (c : CodePoint) : Shown (unitEscapes c) := by
  have unit (n : Nat) : Shown (unitEscape n) := Shown.append (by decide) (shown_hex 4 n)
  unfold unitEscapes
  split
  · exact unit _
  · exact (unit _).append (unit _)

theorem isShown_of_keeps {layout : Layout} (escaped : layout.escaped = true) {c : CodePoint}
    (kept : layout.keeps c = true) : IsShown c := by
  simp only [Layout.keeps, escaped, Bool.not_true, Bool.false_or, Bool.and_eq_true,
    decide_eq_true_eq] at kept
  exact kept

theorem shown_stringChar {layout : Layout} (escaped : layout.escaped = true) (c : CodePoint) :
    Shown (layout.stringChar c) := by
  unfold Layout.stringChar
  split
  · decide
  split
  · decide
  split
  · decide
  split
  · decide
  split
  · decide
  split
  · decide
  split
  · decide
  split
  · rename_i kept
    exact List.forall_mem_singleton.mpr (isShown_of_keeps escaped kept)
  · exact shown_unitEscapes c

end Strings

section Values

/-- A character that a layout writes: a shown one, or a line feed where the layout indents. -/
def Layout.Writes (layout : Layout) (c : CodePoint) : Prop :=
  IsShown c ∨ layout.indent ≠ none ∧ c = '\n'

/-- A text of such characters. -/
def Layout.Written (layout : Layout) (s : Text) : Prop := ∀ c ∈ s, layout.Writes c

variable {layout : Layout}

theorem Shown.written {s : Text} (shown : Shown s) : layout.Written s :=
  fun c member => .inl (shown c member)

theorem Layout.Written.append {s t : Text} (first : layout.Written s) (second : layout.Written t) :
    layout.Written (s ++ t) :=
  List.forall_mem_append.mpr ⟨first, second⟩

theorem Layout.Written.cons {c : CodePoint} {s : Text} (first : IsShown c)
    (others : layout.Written s) : layout.Written (c :: s) :=
  List.forall_mem_cons.mpr ⟨.inl first, others⟩

/-- A piece that adds nothing but what the layout writes to what follows it. -/
def Layout.Adds (layout : Layout) (piece : Writing) : Prop :=
  ∀ tail, layout.Written tail → layout.Written (piece tail)

theorem adds_written {s : Text} (shown : Shown s) : layout.Adds (written s) :=
  fun _ behind => shown.written.append behind

theorem adds_string (escaped : layout.escaped = true) (s : Text) :
    layout.Adds (layout.string s) := by
  intro tail behind
  have inside : Shown (s.flatMap layout.stringChar) := by
    intro c member
    obtain ⟨d, _, piece⟩ := List.mem_flatMap.mp member
    exact shown_stringChar escaped d c piece
  exact ((Shown.append (by decide) inside).append (by decide)).written.append behind

theorem written_lineStart (layout : Layout) (level : Nat) :
    layout.Written (layout.lineStart level) := by
  unfold Layout.lineStart
  split
  · exact List.forall_mem_nil _
  · rename_i width indented
    have blanks : Shown (spaces (width * level)) := fun c member => by
      rw [List.eq_of_mem_replicate member]
      decide
    refine List.forall_mem_cons.mpr ⟨.inr ⟨?_, rfl⟩, blanks.written⟩
    rw [indented]
    exact Option.some_ne_none width

theorem written_separator (layout : Layout) (level : Nat) :
    layout.Written (layout.separator level) := by
  unfold Layout.separator
  split
  · have shown : Shown (if layout.spaced then ", " else ",") := by split <;> decide
    exact shown.written
  · exact (written_lineStart layout level).cons (by decide)

theorem shown_colon (layout : Layout) : Shown layout.colon := by
  unfold Layout.colon
  split <;> decide

theorem adds_enclose (level : Nat) {opening closing : CodePoint}
    (marks : IsShown opening ∧ IsShown closing) {items : List Writing}
    (each : ∀ item ∈ items, layout.Adds item) :
    layout.Adds (layout.enclose level opening closing items) := by
  intro tail behind
  have closes : layout.Written (layout.lineStart level ++ closing :: tail) :=
    (written_lineStart layout level).append (behind.cons marks.2)
  cases items with
  | nil => exact (behind.cons marks.2).cons marks.1
  | cons first others =>
    obtain ⟨adds, later⟩ := List.forall_mem_cons.mp each
    have rest : layout.Written (others.foldr
        (fun item rest => layout.separator (level + 1) ++ item rest)
        (layout.lineStart level ++ closing :: tail)) := by
      clear each
      induction others with
      | nil => exact closes
      | cons item others ih =>
        obtain ⟨here, later⟩ := List.forall_mem_cons.mp later
        exact (written_separator layout (level + 1)).append (here _ (ih later))
    exact ((written_lineStart layout (level + 1)).append (adds _ rest)).cons marks.1

theorem adds_field (escaped : layout.escaped = true) {field : Text × Writing}
    (value : layout.Adds field.2) : layout.Adds (layout.field field) := fun _ behind =>
  adds_string escaped field.1 _ ((shown_colon layout).written.append (value _ behind))

theorem mem_of_mem_arrange {fields : List (Text × Writing)} {field : Text × Writing}
    (member : field ∈ layout.arrange fields) : field ∈ fields := by
  unfold Layout.arrange at member
  split at member
  · exact List.mem_mergeSort.mp member
  · exact member

mutual
theorem adds_render (escaped : layout.escaped = true) (level : Nat) :
    ∀ v, layout.Adds (render layout level v)
  | .null => adds_written (by decide)
  | .bool true => adds_written (by decide)
  | .bool false => adds_written (by decide)
  | .int n => adds_written (shown_ofInt n)
  | .double x => adds_written (shown_number x)
  | .string s => adds_string escaped s
  | .array items => adds_enclose level (by decide) (adds_renderItems escaped (level + 1) items)
  | .object fields => by
    refine adds_enclose level (by decide) fun item member => ?_
    obtain ⟨field, arranged, rfl⟩ := List.mem_map.mp member
    exact adds_field escaped
      (adds_renderFields escaped (level + 1) fields field (mem_of_mem_arrange arranged))

theorem adds_renderItems (escaped : layout.escaped = true) (level : Nat) :
    ∀ items, ∀ item ∈ renderItems layout level items, layout.Adds item
  | [] => List.forall_mem_nil _
  | v :: rest => List.forall_mem_cons.mpr
    ⟨adds_render escaped level v, adds_renderItems escaped level rest⟩

theorem adds_renderFields (escaped : layout.escaped = true) (level : Nat) :
    ∀ fields, ∀ field ∈ renderFields layout level fields, layout.Adds field.2
  | [] => List.forall_mem_nil _
  | (_, v) :: rest => List.forall_mem_cons.mpr
    ⟨adds_render escaped level v, adds_renderFields escaped level rest⟩
end

/-- A text that was written with escapes consists of what its layout writes. -/
theorem written_print (escaped : layout.escaped = true) (v : Value) :
    layout.Written (print layout v) :=
  adds_render escaped 0 v [] (List.forall_mem_nil _)

/-- A text that was written with escapes on one line consists of shown characters. -/
theorem shown_print (escaped : layout.escaped = true) (oneLine : layout.indent = none)
    (v : Value) : Shown (print layout v) := by
  intro c member
  obtain shown | ⟨indented, _⟩ := written_print escaped v c member
  · exact shown
  · exact absurd oneLine indented

/-- A text that was written with escapes consists of printed characters. -/
theorem printed_print (escaped : layout.escaped = true) (v : Value) : Printed (print layout v) := by
  intro c member
  obtain shown | ⟨_, rfl⟩ := written_print escaped v c member
  · exact shown.isPrinted
  · decide

end Values

end ConversionRelay.Json
