import ConversionRelay.Container.Reference
import Mathlib.Data.List.Infix
import Mathlib.Data.List.TakeWhile
/-!
What a scan of a text finds.

A reference never reaches over a closing brace but the two that end it. So a text can be cut at its
closing braces, and each segment be looked at on its own: it holds a capture if two closing braces
follow it and something stands behind its first doubled opening brace. Segments in front of a single
closing brace, and the last one, hold none, whatever they open, and do not hide what comes later.

Main statement: the names of a text are the trimmed captures of its closed segments, as far as they
are not blank (`Reference.mem_names_iff`).
-/
namespace ConversionRelay.Reference

open Text

section Segments

/-- The brace that opens a reference. -/
def openingBrace : CodePoint := '\x7b'

/-- A segment of a text between closing braces that two of them follow: the next segment is empty,
and there is another one behind it. -/
def Closed (s segment : Text) : Prop :=
  ∃ before after, s.splitOn closingBrace = before ++ segment :: [] :: after ∧ after ≠ []

/-- A capture is what stands behind the first doubled opening brace of a segment. -/
def Opens (segment capture : Text) : Prop :=
  ∃ front, segment = front ++ openingBrace :: openingBrace :: capture ∧
    ¬[openingBrace, openingBrace] <:+: front ++ [openingBrace]

/-- What a segment opens, unless it is empty. -/
def opened? : Text → Option Text
  | .char '\x7b' :: .char '\x7b' :: capture => if capture.isEmpty then none else some capture
  | _ :: rest => opened? rest
  | [] => none

end Segments

variable {s name piece rest capture : Text} {c : CodePoint}

section References

theorem takeWhile_unclosed (unclosed : closingBrace ∉ piece) :
    (piece ++ closingBrace :: rest).takeWhile (· != closingBrace) = piece := by
  rw [List.takeWhile_append_of_pos, List.takeWhile_cons_of_neg (by simp), List.append_nil]
  intro c member
  simpa using ne_of_mem_of_not_mem member unclosed

/-- What stands in front of the first closing brace is determined by the text. -/
theorem segment_unique {other others : Text} (unclosed : closingBrace ∉ piece)
    (unclosed' : closingBrace ∉ other)
    (same : piece ++ closingBrace :: rest = other ++ closingBrace :: others) :
    piece = other ∧ rest = others := by
  have pieces := congrArg (List.takeWhile (· != closingBrace)) same
  rw [takeWhile_unclosed unclosed, takeWhile_unclosed unclosed'] at pieces
  subst pieces
  exact ⟨rfl, (List.cons.inj (List.append_cancel_left same)).2⟩

/-- A text begins with a reference in exactly one way. -/
theorem captureAt?_eq_some : captureAt? s = some name ↔ name ≠ [] ∧ closingBrace ∉ name ∧
    ∃ rest, s = openingBrace :: openingBrace :: (name ++ closingBrace :: closingBrace :: rest) := by
  constructor
  · intro captured
    unfold captureAt? at captured
    split at captured
    · rename_i rest
      dsimp only at captured
      split at captured
      · rename_i shape
        rw [Bool.and_eq_true, beq_iff_eq] at shape
        obtain ⟨nonempty, closing⟩ := shape
        cases captured
        have whole := List.prefix_iff_eq_append.mp (rest.takeWhile_prefix (· != closingBrace))
        rw [← List.take_append_drop 2 (rest.drop _), closing] at whole
        refine ⟨by simpa using nonempty, fun member => ?_,
          (rest.drop (rest.takeWhile (· != closingBrace)).length).drop 2, ?_⟩
        · simpa using List.mem_takeWhile_imp member
        · exact congrArg (openingBrace :: openingBrace :: ·) whole.symm
      · cases captured
    · cases captured
  · rintro ⟨nonempty, unclosed, rest, rfl⟩
    rw [openingBrace, captureAt?, takeWhile_unclosed unclosed, List.drop_left]
    simp [nonempty]

theorem captureAt?_segment (unclosed : closingBrace ∉ piece) :
    captureAt? (piece ++ closingBrace :: rest) = some name ↔
      name ≠ [] ∧ piece = openingBrace :: openingBrace :: name ∧
        rest.head? = some closingBrace := by
  constructor
  · intro captured
    obtain ⟨nonempty, free, behind, is⟩ := captureAt?_eq_some.1 captured
    have free : closingBrace ∉ openingBrace :: openingBrace :: name := by
      simpa [openingBrace, closingBrace] using free
    obtain ⟨same, rfl⟩ := segment_unique unclosed free is
    exact ⟨nonempty, same, rfl⟩
  · rintro ⟨nonempty, rfl, closes⟩
    obtain ⟨behind, rfl⟩ := List.head?_eq_some_iff.mp closes
    have free : closingBrace ∉ name := fun member =>
      unclosed (List.mem_cons_of_mem _ (List.mem_cons_of_mem _ member))
    exact captureAt?_eq_some.2 ⟨nonempty, free, behind, rfl⟩

end References

section Openings

theorem opened?_openingBraces (capture : Text) :
    opened? (openingBrace :: openingBrace :: capture) =
      if capture.isEmpty then none else some capture := rfl

theorem opened?_cons (no : ∀ name, name ≠ [] → c :: piece ≠ openingBrace :: openingBrace :: name) :
    opened? (c :: piece) = opened? piece := by
  by_cases begins : ∃ name, c :: piece = openingBrace :: openingBrace :: name
  · obtain ⟨name, is⟩ := begins
    have empty : name = [] := not_not.mp fun nonempty => no name nonempty is
    subst empty
    cases is
    rfl
  · rw [opened?]
    rintro capture rfl rfl
    exact begins ⟨capture, rfl⟩

theorem opens_openingBraces :
    Opens (openingBrace :: openingBrace :: rest) capture ↔ capture = rest := by
  constructor
  · rintro ⟨front, is, first⟩
    rcases front with _ | ⟨c, _ | ⟨d, front⟩⟩
    · cases is
      rfl
    -- Further in front, the first two braces would stand before the doubled one.
    · cases is
      exact absurd (List.infix_refl _) first
    · cases is
      exact absurd (List.infix_append [] _ (front ++ [openingBrace])) first
  · rintro rfl
    refine ⟨[], rfl, fun inside => ?_⟩
    have length := inside.length_le
    simp at length

theorem opens_cons (no : ¬[openingBrace, openingBrace] <+: c :: rest) :
    Opens (c :: rest) capture ↔ Opens rest capture := by
  constructor
  · rintro ⟨front, is, first⟩
    cases front with
    | nil => exact absurd ⟨capture, is.symm⟩ no
    | cons d front =>
      obtain ⟨rfl, rfl⟩ := List.cons.inj is
      exact ⟨front, rfl, fun inside => first (List.infix_cons inside)⟩
  · rintro ⟨front, rfl, first⟩
    refine ⟨c :: front, rfl, fun inside => ?_⟩
    rcases List.infix_cons_iff.mp inside with begins | inside
    · apply no
      refine begins.trans ⟨openingBrace :: capture, ?_⟩
      simp
    · exact first inside

/-- What a segment opens stands behind its first doubled opening brace. -/
theorem opened?_eq_some : opened? piece = some capture ↔ Opens piece capture ∧ capture ≠ [] := by
  fun_induction opened? piece with
  | case1 rest empty =>
    have empty : rest = [] := List.isEmpty_iff.mp empty
    change _ ↔ Opens (openingBrace :: openingBrace :: rest) capture ∧ _
    rw [opens_openingBraces, empty]
    simp
  | case2 rest nonempty =>
    have nonempty : rest ≠ [] := by simpa using nonempty
    change _ ↔ Opens (openingBrace :: openingBrace :: rest) capture ∧ _
    rw [opens_openingBraces, Option.some.injEq]
    constructor
    · rintro rfl
      exact ⟨rfl, nonempty⟩
    · rintro ⟨rfl, _⟩
      rfl
  | case3 c rest no ih =>
    rw [ih, opens_cons]
    rintro ⟨name, is⟩
    cases is
    exact no name rfl rfl
  | case4 => simp [Opens]

end Openings

section Scanning

theorem capturesAfter_drop (count : Nat) (s : Text) :
    capturesAfter count s = captures (s.drop count) := by
  induction count generalizing s with
  | zero => rfl
  | succ count ih =>
    cases s with
    | nil => rfl
    | cons c rest => exact ih rest

theorem captures_cons (c : CodePoint) (rest : Text) : captures (c :: rest) =
    (captureAt? (c :: rest)).elim (captures rest) fun name =>
      name :: captures (rest.drop (name.length + 3)) := by
  rw [captures, capturesAfter]
  cases captureAt? (c :: rest) with
  | none => rfl
  | some name => exact congrArg (name :: ·) (capturesAfter_drop (name.length + 3) rest)

theorem captures_of_none (none : captureAt? (c :: rest) = none) :
    captures (c :: rest) = captures rest := by
  rw [captures_cons, none]
  rfl

/-- A reference is captured, and the scan goes on behind it. -/
theorem captures_reference (nonempty : name ≠ []) (unclosed : closingBrace ∉ name) (rest : Text) :
    captures (openingBrace :: openingBrace :: (name ++ closingBrace :: closingBrace :: rest)) =
      name :: captures rest := by
  rw [captures_cons, captureAt?_eq_some.2 ⟨nonempty, unclosed, rest, rfl⟩, Option.elim_some,
    List.drop_succ_cons, ← List.drop_drop, List.drop_left]
  rfl

theorem captures_closingBrace (rest : Text) :
    captures (closingBrace :: rest) = captures rest := by
  apply captures_of_none
  rfl

/-- Without a closing brace there is no reference. -/
theorem captures_of_unclosed (unclosed : closingBrace ∉ s) : captures s = [] := by
  induction s with
  | nil => rfl
  | cons c rest ih =>
    have none : captureAt? (c :: rest) = none := by
      apply Option.eq_none_iff_forall_ne_some.mpr
      intro name captured
      obtain ⟨_, _, behind, is⟩ := captureAt?_eq_some.1 captured
      rw [is] at unclosed
      simp at unclosed
    rw [captures_of_none none]
    exact ih fun member => unclosed (List.mem_cons_of_mem c member)

/-- Of the segment in front of a closing brace, a scan captures what the first doubled opening brace
opens, provided that another closing brace follows. -/
theorem captures_segment (unclosed : closingBrace ∉ piece) (rest : Text) :
    captures (piece ++ closingBrace :: rest) =
      (if rest.head? = some closingBrace then (opened? piece).toList else []) ++ captures rest := by
  induction piece with
  | nil =>
    have nothing : opened? [] = none := rfl
    simp [nothing, captures_closingBrace]
  | cons c piece ih =>
    cases captured : captureAt? (c :: piece ++ closingBrace :: rest) with
    | some name =>
      obtain ⟨nonempty, is, closes⟩ := (captureAt?_segment unclosed).mp captured
      obtain ⟨behind, rfl⟩ := List.head?_eq_some_iff.mp closes
      have opens : opened? (openingBrace :: openingBrace :: name) = some name := by
        rw [opened?_openingBraces, if_neg (by simpa using nonempty)]
      rw [is] at unclosed ⊢
      have free : closingBrace ∉ name := fun member =>
        unclosed (List.mem_cons_of_mem _ (List.mem_cons_of_mem _ member))
      rw [if_pos closes, opens, captures_closingBrace]
      exact captures_reference nonempty free behind
    | none =>
      have later := ih fun member => unclosed (List.mem_cons_of_mem c member)
      rw [List.cons_append] at captured ⊢
      rw [captures_of_none captured, later]
      by_cases closes : rest.head? = some closingBrace
      · have same : opened? (c :: piece) = opened? piece := by
          apply opened?_cons
          intro name nonempty is
          have taken := (captureAt?_segment unclosed).mpr ⟨nonempty, is, closes⟩
          rw [List.cons_append, captured] at taken
          cases taken
        rw [same]
      · rw [if_neg closes, if_neg closes]

theorem mem_captures_segment (unclosed : closingBrace ∉ piece) :
    capture ∈ captures (piece ++ closingBrace :: rest) ↔
      (rest.head? = some closingBrace ∧ Opens piece capture ∧ capture ≠ []) ∨
        capture ∈ captures rest := by
  rw [captures_segment unclosed, List.mem_append]
  by_cases closes : rest.head? = some closingBrace
  · rw [if_pos closes, Option.mem_toList, opened?_eq_some]
    simp [closes]
  · rw [if_neg closes]
    simp [closes]

end Scanning

section Names

/-- The first segment is empty, and not the only one, where a text begins with a closing brace. -/
theorem head?_of_splitOn {after : List Text} (pieces : rest.splitOn closingBrace = [] :: after)
    (more : after ≠ []) : rest.head? = some closingBrace := by
  cases rest with
  | nil =>
    rw [List.splitOn_nil] at pieces
    exact absurd (List.cons.inj pieces).2.symm more
  | cons c rest =>
    rw [List.splitOn_cons_eq_if_modifyHead] at pieces
    split at pieces
    · rename_i closes
      rw [beq_iff_eq.mp closes]
      rfl
    · cases others : rest.splitOn closingBrace with
      | nil => exact absurd others (List.splitOn_ne_nil _ _)
      | cons first later =>
        rw [others] at pieces
        cases pieces

theorem closed_segment (unclosed : closingBrace ∉ piece) {segment : Text} :
    Closed (piece ++ closingBrace :: rest) segment ↔
      (rest.head? = some closingBrace ∧ segment = piece) ∨ Closed rest segment := by
  have pieces : (piece ++ closingBrace :: rest).splitOn closingBrace =
      piece :: rest.splitOn closingBrace :=
    List.splitOn_append_cons_self_of_not_mem unclosed rest
  constructor
  · rintro ⟨before, after, is, more⟩
    rw [pieces] at is
    cases before with
    | nil =>
      obtain ⟨same, others⟩ := List.cons.inj is
      exact .inl ⟨head?_of_splitOn others more, same.symm⟩
    | cons first before => exact .inr ⟨before, after, (List.cons.inj is).2, more⟩
  · rintro (⟨closes, rfl⟩ | ⟨before, after, is, more⟩)
    · obtain ⟨behind, rfl⟩ := List.head?_eq_some_iff.mp closes
      refine ⟨[], behind.splitOn closingBrace, ?_, List.splitOn_ne_nil _ _⟩
      rw [pieces]
      rfl
    · exact ⟨piece :: before, after, by rw [pieces, is]; rfl, more⟩

/-- Without a closing brace no segment is closed. -/
theorem not_closed_of_unclosed (unclosed : closingBrace ∉ s) {segment : Text} :
    ¬Closed s segment := by
  rintro ⟨before, after, is, _⟩
  rw [List.splitOn_eq_singleton unclosed] at is
  have length := congrArg List.length is
  simp at length
  omega

/-- No piece of a text holds the separator that it was cut at. -/
theorem not_mem_of_mem_splitOn {separator : CodePoint} {segment : Text}
    (member : segment ∈ s.splitOn separator) : separator ∉ segment := by
  induction s generalizing segment with
  | nil =>
    rw [List.splitOn_nil, List.mem_singleton] at member
    rw [member]
    exact List.not_mem_nil
  | cons c rest ih =>
    rw [List.splitOn_cons_eq_if_modifyHead] at member
    split at member
    · rcases List.mem_cons.mp member with rfl | later
      · exact List.not_mem_nil
      · exact ih later
    · rename_i other
      cases pieces : rest.splitOn separator with
      | nil => exact absurd pieces (List.splitOn_ne_nil _ _)
      | cons first later =>
        rw [pieces] at member ih
        rcases List.mem_cons.mp member with rfl | behind
        · intro found
          rcases List.mem_cons.mp found with same | inside
          · exact other (beq_iff_eq.mpr same.symm)
          · exact ih List.mem_cons_self inside
        · exact ih (List.mem_cons_of_mem first behind)

theorem Closed.unclosed {segment : Text} (closed : Closed s segment) : closingBrace ∉ segment := by
  obtain ⟨before, after, is, _⟩ := closed
  apply not_mem_of_mem_splitOn (s := s)
  rw [is]
  exact List.mem_append_right before List.mem_cons_self

/-- The captures of a text are what its closed segments open. -/
theorem mem_captures : capture ∈ captures s ↔
    ∃ segment, Closed s segment ∧ Opens segment capture ∧ capture ≠ [] := by
  induction length : s.length using Nat.strongRecOn generalizing s with
  | ind n ih =>
    by_cases closes : closingBrace ∈ s
    · obtain ⟨piece, rest, rfl, unclosed⟩ := List.eq_append_cons_of_mem closes
      have shorter : rest.length < n := by
        rw [← length, List.length_append, List.length_cons]
        omega
      rw [mem_captures_segment unclosed, ih _ shorter rfl]
      simp only [closed_segment unclosed]
      constructor
      · rintro (⟨follows, opens⟩ | ⟨segment, closed, opens⟩)
        · exact ⟨piece, .inl ⟨follows, rfl⟩, opens⟩
        · exact ⟨segment, .inr closed, opens⟩
      · rintro ⟨segment, ⟨follows, rfl⟩ | closed, opens⟩
        · exact .inl ⟨follows, opens⟩
        · exact .inr ⟨segment, closed, opens⟩
    · rw [captures_of_unclosed closes]
      constructor
      · rintro ⟨⟩
      · rintro ⟨segment, closed, _⟩
        exact absurd closed (not_closed_of_unclosed closes)

/-- The names that a text refers to are the trimmed captures that are not blank, and a capture stands
behind the first doubled opening brace of a segment that two closing braces follow. -/
theorem mem_names_iff (s name : Text) : name ∈ names s ↔ name ≠ [] ∧ ∃ segment capture,
    Closed s segment ∧ Opens segment capture ∧ capture ≠ [] ∧ name = trim capture := by
  rw [names, List.mem_filter, List.mem_map]
  constructor
  · rintro ⟨⟨capture, captured, rfl⟩, nonempty⟩
    obtain ⟨segment, closed, opens, some⟩ := mem_captures.mp captured
    exact ⟨by simpa using nonempty, segment, capture, closed, opens, some, rfl⟩
  · rintro ⟨nonempty, segment, capture, closed, opens, some, rfl⟩
    exact ⟨⟨capture, mem_captures.mpr ⟨segment, closed, opens, some⟩, rfl⟩, by simpa using nonempty⟩

/-- A reference that is never closed is none and hides no later one, and names may hold opening
braces. -/
example :
    names "\x7b\x7bBroken\x7d \x7b\x7b\x7ba\x7d\x7d \x7b\x7ba\x7b\x7bb\x7d\x7d \x7b\x7b\x7d\x7d" =
      ["\x7ba", "a\x7b\x7bb"] := by decide +kernel

end Names

end ConversionRelay.Reference
