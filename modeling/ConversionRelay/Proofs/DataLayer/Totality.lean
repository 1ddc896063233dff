import ConversionRelay.Proofs.DataLayer
import Mathlib.Data.List.GetD
import Mathlib.Data.List.TakeWhile
/-!
Which paths can be followed in a data layer.

A path leads through whatever a page pushed: what is missing reads as null, and so does everything
below it. There is one way in which reading fails. A segment of digits is taken for a position where
it meets a list, but not every text of digits denotes a number: superscripts and circled digits count
as digits of no decimal set, and a number may not have too many of them.

Main statement: a path is read, and so are several paths up to the first that leads anywhere, unless
a segment that denotes no number meets a list (`DataLayer.read_unless_obstructed`). A superscript
that does is refused (`DataLayer.read_refused`).
-/
namespace ConversionRelay.DataLayer

section Positions

/-- A segment that passes for a position and denotes none: it consists of digits, but not only of
decimal ones, or of more than a number may have. -/
structure Refused (segment : Text) : Prop where
  digits : Text.isDigits segment = true
  numberless : (∃ c ∈ segment, Text.decimalValue? c = none) ∨ Text.digitLimit < segment.length

/-- What is said of a segment that is refused. -/
inductive RefusalOf (segment : Text) : Fault → Prop
  | notIndex : RefusalOf segment (.notIndex segment)
  | tooLong : RefusalOf segment (.indexTooLong (leadingDigits segment).length)

variable {segment : Text}

instance (segment : Text) : Decidable (Refused segment) :=
  decidable_of_iff (Text.isDigits segment = true ∧
      ((∃ c ∈ segment, Text.decimalValue? c = none) ∨ Text.digitLimit < segment.length))
    ⟨fun refused => ⟨refused.1, refused.2⟩, fun refused => ⟨refused.digits, refused.numberless⟩⟩

/-- A text denotes a number unless one of its characters has no value. -/
theorem naturalOf?_eq_none : Text.naturalOf? segment = none ↔
    ∃ c ∈ segment, Text.decimalValue? c = none := by
  suffices each : ∀ acc : Nat,
      segment.foldlM (fun acc c => (Text.decimalValue? c).map (acc * 10 + ·)) acc = none ↔
        ∃ c ∈ segment, Text.decimalValue? c = none from each 0
  induction segment with
  | nil => simp
  | cons c rest ih =>
    intro acc
    rw [List.foldlM_cons]
    cases value : Text.decimalValue? c with
    | none => simp [value]
    | some d =>
      have later := ih (acc * 10 + d)
      simpa [value] using later

theorem leadingDigits_of_decimal (decimal : ¬∃ c ∈ segment, Text.decimalValue? c = none) :
    leadingDigits segment = segment := by
  apply List.takeWhile_eq_self_iff.mpr
  intro c member
  exact Option.isSome_iff_ne_none.mpr fun valueless => decimal ⟨c, member, valueless⟩

/-- A refused segment fails, whatever list it meets. -/
theorem itemAt_of_refused (refused : Refused segment) (items : List Value) :
    ∃ fault, itemAt items segment = .error fault ∧ RefusalOf segment fault := by
  by_cases long : Text.digitLimit < (leadingDigits segment).length
  · exact ⟨_, if_pos long, .tooLong⟩
  · have valueless : ∃ c ∈ segment, Text.decimalValue? c = none := by
      rcases refused.numberless with valueless | tooLong
      · exact valueless
      · apply not_not.mp
        intro decimal
        rw [leadingDigits_of_decimal decimal] at long
        exact long tooLong
    refine ⟨_, ?_, .notIndex⟩
    rw [itemAt, if_neg long, naturalOf?_eq_none.2 valueless]

/-- Any other segment of digits denotes a position. -/
theorem itemAt_of_not_refused (digits : Text.isDigits segment = true) (fit : ¬Refused segment)
    (items : List Value) : ∃ position, Text.naturalOf? segment = some position ∧
      itemAt items segment = .ok (items.getD position .null) := by
  have decimal : ¬∃ c ∈ segment, Text.decimalValue? c = none := fun valueless =>
    fit ⟨digits, .inl valueless⟩
  have short : ¬Text.digitLimit < (leadingDigits segment).length := by
    rw [leadingDigits_of_decimal decimal]
    exact fun tooLong => fit ⟨digits, .inr tooLong⟩
  cases number : Text.naturalOf? segment with
  | none => exact absurd (naturalOf?_eq_none.1 number) decimal
  | some position =>
    refine ⟨position, rfl, ?_⟩
    rw [itemAt, if_neg short, number]

end Positions

section Steps

variable {layer current : Value} {segment : Text} {segments : List Text} {fault : Fault}

/-- A step fails only where a refused segment meets a list. -/
theorem step_eq_error (failed : step current segment = .error fault) :
    ∃ items, current = .array items ∧ Refused segment ∧ RefusalOf segment fault := by
  cases current with
  | array items =>
    rw [step] at failed
    split at failed
    · rename_i digits
      by_cases refused : Refused segment
      · obtain ⟨_, fails, reason⟩ := itemAt_of_refused refused items
        cases fails.symm.trans failed
        exact ⟨items, rfl, refused, reason⟩
      · obtain ⟨position, _, gives⟩ := itemAt_of_not_refused digits refused items
        cases gives.symm.trans failed
    · cases failed
  | _ => cases failed

theorem step_of_refused (refused : Refused segment) (items : List Value) :
    ∃ fault, step (.array items) segment = .error fault := by
  obtain ⟨fault, fails, _⟩ := itemAt_of_refused refused items
  refine ⟨fault, ?_⟩
  rw [step, if_pos refused.digits, fails]

theorem walk_append (current : Value) (segments more : List Text) :
    walk current (segments ++ more) = (walk current segments).bind fun reached =>
      walk reached more := List.foldlM_append

/-- A walk fails at the first segment at which a step does. -/
theorem walk_eq_error : walk current segments = .error fault ↔ ∃ before segment after reached,
    segments = before ++ segment :: after ∧ walk current before = .ok reached ∧
      step reached segment = .error fault := by
  constructor
  · intro failed
    induction segments generalizing current with
    | nil => cases failed
    | cons segment rest ih =>
      cases first : step current segment with
      | error problem =>
        rw [walk, List.foldlM_cons, first] at failed
        cases failed
        exact ⟨[], segment, rest, current, rfl, rfl, first⟩
      | ok next =>
        rw [walk, List.foldlM_cons, first] at failed
        obtain ⟨before, refused, after, reached, rfl, walks, fails⟩ := ih failed
        refine ⟨segment :: before, refused, after, reached, rfl, ?_, fails⟩
        rw [walk, List.foldlM_cons, first]
        exact walks
  · rintro ⟨before, segment, after, reached, rfl, walks, fails⟩
    rw [walk_append, walks, Except.bind, walk, List.foldlM_cons, fails]
    rfl

/-- Below null there is only null. -/
theorem walk_null (segments : List Text) : walk .null segments = .ok .null := by
  induction segments with
  | nil => rfl
  | cons segment rest ih => exact ih

end Steps

section Paths

/-- On its way through a data layer, a path meets a list with a refused segment. -/
def Obstructed (layer : Value) (path : Text) : Prop :=
  layer.isTruthy = true ∧ ∃ before segment after items,
    Text.cut dot path = before ++ segment :: after ∧
      walk layer before = .ok (.array items) ∧ Refused segment

/-- One of several paths is obstructed, and those in front of it read as null. -/
inductive ObstructedAmong (layer : Value) : List Text → Prop
  | here {path : Text} {others : List Text} (obstructed : Obstructed layer path) :
      ObstructedAmong layer (path :: others)
  | later {path : Text} {others : List Text} (null : read layer (.string path) = .ok .null)
      (obstructed : ObstructedAmong layer others) : ObstructedAmong layer (path :: others)

/-- There is nothing for a segment in a value: the value is no collection, the key is not bound, the
segment does not consist of digits, or the list ends in front of the position. -/
inductive Lacks : Value → Text → Prop
  | flat {v : Value} {segment : Text} (noFields : v.fields? = none) (noItems : v.items? = none) :
      Lacks v segment
  | unbound {fields : Fields} {segment : Text}
      (absent : OrderedMap.lookup? fields segment = none) : Lacks (.object fields) segment
  | word {items : List Value} {segment : Text} (named : Text.isDigits segment = false) :
      Lacks (.array items) segment
  | beyond {items : List Value} {segment : Text} {position : Nat}
      (digits : Text.isDigits segment = true) (fit : ¬Refused segment)
      (is : Text.naturalOf? segment = some position) (outside : items.length ≤ position) :
      Lacks (.array items) segment

variable {layer current : Value} {path segment : Text} {paths : List Text} {fault : Fault}

theorem step_of_lacks (lacks : Lacks current segment) : step current segment = .ok .null := by
  cases lacks with
  | flat noFields noItems =>
    cases current with
    | object fields => cases noFields
    | array items => cases noItems
    | _ => rfl
  | unbound absent => rw [step_object, Value.fieldOf, absent, Option.getD_none]
  | word named =>
    rw [step, named]
    rfl
  | beyond digits fit is outside =>
    obtain ⟨position, is', gives⟩ := itemAt_of_not_refused digits fit _
    cases is.symm.trans is'
    rw [step, if_pos digits, gives, List.getD_eq_default _ _ outside]

theorem ne_nil_of_refused (refused : Refused segment) : segment ≠ [] := by
  rintro rfl
  cases refused.digits

/-- Where reading fails, a segment is refused that met a list. -/
theorem obstructed_of_read (failed : read layer (.string path) = .error fault) :
    Obstructed layer path ∧
      ∃ segment ∈ Text.cut dot path, Refused segment ∧ RefusalOf segment fault := by
  by_cases walked : layer.isTruthy = true ∧ path ≠ []
  · rw [read_path walked.1 walked.2] at failed
    obtain ⟨before, segment, after, reached, is, walks, fails⟩ := walk_eq_error.1 failed
    obtain ⟨items, rfl, refused, reason⟩ := step_eq_error fails
    refine ⟨⟨walked.1, before, segment, after, items, is, walks, refused⟩, segment, ?_, refused,
      reason⟩
    rw [is]
    exact List.mem_append_right before List.mem_cons_self
  · rw [read_absent walked] at failed
    cases failed

/-- A path is read unless it is obstructed. -/
theorem readable_iff : Readable layer (.string path) ↔ ¬Obstructed layer path := by
  constructor
  · rintro ⟨v, reads⟩ ⟨present, before, segment, after, items, is, walks, refused⟩
    have nonempty : path ≠ [] := by
      rintro rfl
      have only : segment ∈ Text.cut dot [] := by
        rw [is]
        exact List.mem_append_right before List.mem_cons_self
      exact ne_nil_of_refused refused (List.mem_singleton.mp only)
    obtain ⟨fault, fails⟩ := step_of_refused refused items
    have failed := walk_eq_error.2 ⟨before, segment, after, _, is, walks, fails⟩
    rw [← read_path present nonempty, reads] at failed
    cases failed
  · intro free
    cases reads : read layer (.string path) with
    | ok v => exact ⟨v, reads⟩
    | error fault => exact absurd (obstructed_of_read reads).1 free

/-- Where there is nothing for a segment, the whole path reads as null. -/
theorem read_of_lacks {before after : List Text} (is : Text.cut dot path = before ++ segment :: after)
    (walks : walk layer before = .ok current) (lacks : Lacks current segment) :
    read layer (.string path) = .ok .null := by
  by_cases walked : layer.isTruthy = true ∧ path ≠ []
  · rw [read_path walked.1 walked.2, is, walk_append, walks, Except.bind, walk, List.foldlM_cons,
      step_of_lacks lacks]
    exact walk_null after
  · exact read_absent walked

/-- Several paths are read up to the first that leads anywhere. -/
theorem readFirst_ok_iff :
    (∃ v, readFirst layer (paths.map .string) = .ok v) ↔ ¬ObstructedAmong layer paths := by
  induction paths with
  | nil => exact iff_of_true ⟨.null, rfl⟩ nofun
  | cons first others ih =>
    rw [List.map_cons, readFirst]
    cases reads : read layer (.string first) with
    | error fault =>
      have obstructed := (obstructed_of_read reads).1
      exact iff_of_false nofun (not_not.mpr (.here obstructed))
    | ok v =>
      have free : ¬Obstructed layer first := readable_iff.1 ⟨v, reads⟩
      cases v with
      | null =>
        rw [ih, not_iff_not]
        constructor
        · exact .later reads
        · rintro (obstructed | ⟨_, obstructed⟩)
          · exact absurd obstructed free
          · exact obstructed
      | _ =>
        refine iff_of_true ⟨_, rfl⟩ ?_
        rintro (obstructed | ⟨null, _⟩)
        · exact free obstructed
        · rw [reads] at null
          cases null

theorem hasPath_ok_iff : (∃ found, hasPath layer (.string path) = .ok found) ↔
    Readable layer (.string path) := by
  rw [hasPath]
  cases reads : read layer (.string path) with
  | error fault => simp [Readable, reads, Except.map]
  | ok v => simp [Readable, reads, Except.map]

/-- A path is read, and tested for leading anywhere, unless it is obstructed, and several paths are
tried up to the first that leads anywhere unless one of them is obstructed before. Where there is
nothing for a segment, the path reads as null. Reading fails only for a segment that is refused. -/
theorem read_unless_obstructed (layer : Value) (path : Text) :
    ((∃ v, read layer (.string path) = .ok v) ↔ ¬Obstructed layer path) ∧
      ((∃ found, hasPath layer (.string path) = .ok found) ↔ ¬Obstructed layer path) ∧
      (∀ paths : List Text, (∃ v, readFirst layer (paths.map .string) = .ok v) ↔
        ¬ObstructedAmong layer paths) ∧
      (∀ before segment after current, Text.cut dot path = before ++ segment :: after →
        walk layer before = .ok current → Lacks current segment →
          read layer (.string path) = .ok .null) ∧
      ∀ fault, read layer (.string path) = .error fault →
        ∃ segment ∈ Text.cut dot path, Refused segment ∧ RefusalOf segment fault :=
  ⟨readable_iff, hasPath_ok_iff.trans readable_iff, fun _ => readFirst_ok_iff,
    fun _ _ _ _ => read_of_lacks, fun _ failed => (obstructed_of_read failed).2⟩

/-- A position beyond the end of a list reads as null with all that follows, and a superscript in
its place is refused. -/
theorem read_unless_obstructed_positions :
    let layer : Value := .object [("items", .array [.int 1])]
    let beyond : Text := "items.5.price"
    let raised : Text := "items.\u00b2"
    (Text.cut dot beyond = (["items", "5", "price"] : List Text) ∧
        walk layer ["items"] = .ok (.array [.int 1]) ∧ Lacks (.array [.int 1]) "5" ∧
        read layer (.string beyond) = .ok .null) ∧
      ∃ fault, read layer (.string raised) = .error fault ∧
        ∃ segment ∈ Text.cut dot raised, Refused segment ∧ RefusalOf segment fault := by
  intro layer beyond raised
  have lacks : Lacks (.array [.int 1]) "5" :=
    .beyond (by decide +kernel) (by decide +kernel) (show _ = some 5 by decide +kernel) (by decide)
  obtain ⟨_, _, _, missing, _⟩ := read_unless_obstructed layer beyond
  obtain ⟨_, _, _, _, reason⟩ := read_unless_obstructed layer raised
  have null := missing ["items"] "5" ["price"] (.array [.int 1]) rfl rfl lacks
  have failed : read layer (.string raised) = .error (.notIndex "\u00b2") := rfl
  exact ⟨⟨rfl, rfl, lacks, null⟩, _, failed, reason _ failed⟩

/-- A superscript that meets a list is no position, so it makes reading fail. -/
theorem read_refused :
    let layer : Value := .object [("items", .array [.int 1])]
    let path : Value := .string "items.\u00b2"
    read layer path = .error (.notIndex "\u00b2") ∧
      hasPath layer path = .error (.notIndex "\u00b2") ∧
      readFirst layer [path] = .error (.notIndex "\u00b2") := by
  intro layer path
  refine ⟨?_, ?_, ?_⟩ <;> rfl

end Paths

end ConversionRelay.DataLayer
