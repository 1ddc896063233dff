import ConversionRelay.Proofs.Json.Number
import ConversionRelay.Proofs.Json.Reading
/-!
What the limits of a reader keep out.

A reader gives up where a limit is passed, before it has seen what stands behind. So it gives up on
texts that a reader with wider limits takes, and also on texts that no reader takes.

Main statements: an object whose first field is an integer with too many digits is refused for that
integer (`parseWithin_long`), and a run of opening brackets is refused for its depth as soon as it is
longer than the limit, although it is not the text of a value (`parseWithin_brackets`).
-/
namespace ConversionRelay.Json

open Text Decimal

section Digits

variable {limits : Limits} {layout : Layout} {steps room n : Nat} {tail : Text}

theorem ofNat_opensScalar (n : Nat) :
    ∃ c rest, ofNat n = c :: rest ∧ c.isDigit = true ∧ OpensScalar c := by
  obtain ⟨c, rest, is⟩ := List.exists_cons_of_ne_nil (ofNat_ne_nil n)
  have digit : c.isDigit = true := isDigit_of_mem_ofNat c (is ▸ List.mem_cons_self)
  exact ⟨c, rest, is, digit, opensScalar_of_isDigit digit⟩

/-- An integer with too many digits is refused where a value is expected. -/
theorem readValue_long (long : limits.digits < (ofNat n).length) (ends : Ends tail) :
    readValue limits (steps + 1) room (ofNat n ++ tail) =
      .error (.tooManyDigits (ofNat n).length) := by
  obtain ⟨c, rest, is, digit, opens⟩ := ofNat_opensScalar n
  have begins : ofNat n ++ tail = c :: (rest ++ tail) := by rw [is, List.cons_append]
  rw [begins, readValue_scalar _ _ _ _ opens.2, readScalar_digit digit, ← begins,
    readUnsigned_integer (whole_ofNat n) ends, integerOf, if_pos long]
  rfl

/-- A field is refused for its value. -/
theorem readFields_long (escaped : layout.escaped = true)
    (long : limits.digits < (ofNat n).length) (ends : Ends tail) (key : Text) :
    readFields limits (steps + 2) room (layout.field (key, written (ofNat n)) tail) =
      .error (.tooManyDigits (ofNat n).length) := by
  have opens : skipSpace (written (ofNat n) tail) = written (ofNat n) tail := by
    obtain ⟨c, rest, is, _, opens⟩ := ofNat_opensScalar n
    rw [written, is]
    exact skipSpace_of_opens _ opens.1.1
  rw [readFields_succ, readKey_written escaped key _ _ opens]
  dsimp only [Except.bind]
  rw [written, readValue_long long ends]

/-- An object is refused for its first field, if that is an integer with too many digits. -/
theorem parseWithin_long (unsorted : layout.sorted = false) (escaped : layout.escaped = true)
    (long : limits.digits < (ofNat n).length) (some : 0 < limits.nesting) (key : Text)
    (others : Fields) :
    parseWithin limits (print layout (.object ((key, .int n) :: others))) =
      .error (.tooManyDigits (ofNat n).length) := by
  let behind := remainder layout 0 '\x7d' ((renderFields layout 1 others).map layout.field) []
  have ends : Ends behind := ends_remainder layout 0 _ [] (.inr rfl)
  have number : render layout 1 (.int n) = written (ofNat n) := by
    rw [render, ofInt, if_neg (by omega), Int.natAbs_natCast]
  have shape : print layout (.object ((key, .int n) :: others)) = CodePoint.char '\x7b' ::
      (layout.lineStart 1 ++ layout.field (key, written (ofNat n)) behind) := by
    rw [← number]
    exact render_object_cons unsorted 0 (key, .int n) others []
  generalize print layout (.object ((key, .int n) :: others)) = text at shape
  have unmarked : text.head? ≠ Option.some (.ofCode 0xfeff) := by
    rw [shape, List.head?_cons]
    decide
  have noSpace : skipSpace text = text := by
    rw [shape]
    exact skipSpace_of_opens _ (by decide)
  have noBrace : behind? '\x7d' (layout.field (key, written (ofNat n)) behind) = none := by
    obtain ⟨_, _, begins⟩ := field_eq layout key (written (ofNat n)) behind
    rw [begins]
    rfl
  obtain ⟨room, nesting⟩ : ∃ fewer, limits.nesting = fewer + 1 := ⟨limits.nesting - 1, by omega⟩
  obtain ⟨steps, enough⟩ : ∃ fewer, 2 * text.length + 1 = fewer + 3 := by
    refine ⟨2 * text.length - 2, ?_⟩
    rw [shape, List.length_cons]
    omega
  rw [parseWithin, if_neg unmarked, parseDecoded, readDocument, noSpace, enough, nesting, shape,
    readValue_brace, skipSpace_blanks (lineStart_blank layout 1), field_skip, noBrace]
  dsimp only
  rw [readFields_long escaped long ends]
  rfl

end Digits

section Depth

variable {limits : Limits} {steps room : Nat}

/-- So many opening brackets. -/
def brackets (n : Nat) : Text := List.replicate n '['

theorem skipSpace_brackets (n : Nat) : skipSpace (brackets n) = brackets n := by
  cases n with
  | zero => rfl
  | succ n => exact skipSpace_of_opens (brackets n) (by decide)

theorem behind?_brackets (n : Nat) : behind? ']' (brackets n) = none := by
  cases n with
  | zero => rfl
  | succ n =>
    have other : CodePoint.char '[' ≠ ']' := by decide
    rw [brackets, List.replicate_succ, behind?, if_neg other]

/-- Each bracket takes two steps and uses up room; the text ends where the innermost value is
expected. -/
theorem readValue_brackets (n : Nat) (enough : 2 * n < steps) :
    readValue limits steps room (brackets n) =
      if room < n then .error (.tooDeep .array) else failAt .expectingValue [] := by
  induction n generalizing steps room with
  | zero =>
    obtain ⟨steps, rfl⟩ : ∃ fewer, steps = fewer + 1 := ⟨steps - 1, by omega⟩
    rfl
  | succ n ih =>
    obtain ⟨steps, rfl⟩ : ∃ fewer, steps = fewer + 2 := ⟨steps - 2, by omega⟩
    have opens : brackets (n + 1) = CodePoint.char '[' :: brackets n := rfl
    cases room with
    | zero => rfl
    | succ room =>
      rw [opens, readValue_bracket, skipSpace_brackets, behind?_brackets]
      dsimp only
      rw [readItems_succ, ih (by omega)]
      by_cases deep : room < n
      · rw [if_pos deep, if_pos (Nat.succ_lt_succ deep)]
        rfl
      · rw [if_neg deep, if_neg (fun deeper => deep (Nat.lt_of_succ_lt_succ deeper))]
        rfl

theorem parseWithin_brackets (limits : Limits) (n : Nat) : parseWithin limits (brackets n) =
    if limits.nesting < n then .error (.tooDeep .array)
    else .error (.malformed (Failure.locate (brackets n) ⟨.expectingValue, 0⟩)) := by
  have unmarked : (brackets n).head? ≠ some (.ofCode 0xfeff) := by
    cases n with
    | zero => nofun
    | succ n => 
      intro same
      cases same
  have length : (brackets n).length = n := List.length_replicate
  rw [parseWithin, if_neg unmarked, parseDecoded, readDocument, skipSpace_brackets,
    readValue_brackets n (by omega)]
  by_cases deep : limits.nesting < n
  · rw [if_pos deep, if_pos deep]
    rfl
  · rw [if_neg deep, if_neg deep]
    rfl

end Depth

end ConversionRelay.Json
