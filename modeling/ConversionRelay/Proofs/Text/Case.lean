import ConversionRelay.Text.Blank
import ConversionRelay.Text.Case
import Mathlib.Data.List.Basic
import Mathlib.Data.List.SplitBy
import Mathlib.Data.List.TakeWhile
/-!
How lower-casing and trimming get along.

Whatever lower-casing yields is settled: it is left alone by lower-casing wherever it stands. Blanks
are settled, have no case and are not ignored by it, so a blank separates the text before it from
the text behind it as the end of the text would. Lower-casing therefore works between the blanks at
the ends of a text, and makes no blanks of other characters. What is needed of the tables of letter
case is checked once for all entries (`tables_ordinary`).

Main statements: lower-casing twice is lower-casing once (`lower_lower`), and a text has the same
trimmed lower-case form whether it is lower-cased (`lower_trim_lower`) or surrounded by blanks
(`trim_between_blanks`) before.
-/
namespace ConversionRelay

theorem CodePoint.code_ofCode {n : Nat} (bound : n < 0x110000) : (ofCode n).code = n := by
  unfold ofCode
  split
  · rename_i half
    simp only [code, firstSurrogate] at half ⊢
    omega
  · rename_i outside
    have valid : n.isValidChar := by
      simp only [firstSurrogate] at outside
      unfold Nat.isValidChar
      omega
    have written : Char.ofNat n = Char.ofNatAux n valid := dif_pos valid
    rw [code, written]
    rfl

namespace Text

section Tables

/-- A code point that lower-casing leaves alone wherever it stands. -/
def Settled (n : Nat) : Prop := n ≠ 0x3a3 ∧ n ≠ 0x130 ∧ lowerCode lowerRanges n = n

instance : DecidablePred Settled := fun n =>
  inferInstanceAs (Decidable (n ≠ 0x3a3 ∧ n ≠ 0x130 ∧ lowerCode lowerRanges n = n))

/-- Whether a range maps a code point. -/
def CaseRange.Maps (range : CaseRange) (n : Nat) : Prop :=
  range.first ≤ n ∧ n ≤ range.last ∧ (n - range.first) % range.stride = 0

/-- A code point stays as it is unless a range maps it. -/
theorem lowerCode_cases (ranges : List CaseRange) (n : Nat) :
    lowerCode ranges n = n ∨ ∃ range ∈ ranges, range.Maps n ∧
      lowerCode ranges n = range.target + (n - range.first) := by
  induction ranges with
  | nil => exact .inl rfl
  | cons range rest ih =>
    unfold lowerCode
    split
    · exact .inl rfl
    split
    · split
      · rename_i above within mapped
        exact .inr ⟨range, by simp, ⟨by omega, within, mapped⟩, rfl⟩
      · exact .inl rfl
    · rcases ih with same | ⟨other, member, found⟩
      · exact .inl same
      · exact .inr ⟨other, List.mem_cons_of_mem _ member, found⟩

/-- The closed range of numbers that a range maps. -/
def CaseRange.sources (range : CaseRange) : Nat × Nat := (range.first, range.last)

/-- The closed range of numbers that a range maps to. -/
def CaseRange.targets (range : CaseRange) : Nat × Nat :=
  (range.target, range.target + (range.last - range.first))

/-- Whether two closed ranges of numbers have none in common. -/
def apart (a b : Nat × Nat) : Bool := a.2.blt b.1 || b.2.blt a.1

theorem not_within_of_apart {a b : Nat × Nat} {n : Nat} (off : apart a b = true)
    (within : a.1 ≤ n ∧ n ≤ a.2) : ¬ (b.1 ≤ n ∧ n ≤ b.2) := by
  simp only [apart, Bool.or_eq_true, Nat.blt_eq] at off
  omega

theorem inRanges_of_apart {a : Nat × Nat} {ranges : List (Nat × Nat)} {n : Nat}
    (off : ranges.all (apart a) = true) (within : a.1 ≤ n ∧ n ≤ a.2) :
    inRanges ranges n = false := by
  rw [inRanges, List.any_eq_false]
  intro range member
  have outside := not_within_of_apart (List.all_eq_true.mp off range member) within
  simpa using outside

/-- Whether a range maps to nothing that another one maps: they lie apart, or both map every second
code point only, and not the same ones. -/
def CaseRange.clearOf (range other : CaseRange) : Bool :=
  apart range.targets other.sources ||
    (other.stride.beq 2 && (range.stride.beq 2 || range.first.beq range.last) &&
      !(range.target % 2).beq (other.first % 2))

theorem CaseRange.Maps.target_within {range : CaseRange} {n : Nat} (maps : range.Maps n) :
    range.targets.1 ≤ range.target + (n - range.first) ∧
      range.target + (n - range.first) ≤ range.targets.2 := by
  have below := maps.2.1
  simp only [targets]
  omega

theorem not_maps_of_clearOf {range other : CaseRange} {n : Nat}
    (clear : range.clearOf other = true) (maps : range.Maps n) :
    ¬ other.Maps (range.target + (n - range.first)) := by
  have within := maps.target_within
  obtain ⟨above, below, strides⟩ := maps
  rintro ⟨above', below', strides'⟩
  simp only [CaseRange.clearOf, Bool.or_eq_true, Bool.and_eq_true, Nat.beq_eq,
    Bool.not_eq_true', ← Bool.not_eq_true] at clear
  rcases clear with off | ⟨⟨two, two' | single⟩, parity⟩
  · exact not_within_of_apart off within ⟨above', below'⟩
  · rw [two] at strides'
    rw [two'] at strides
    omega
  · rw [two] at strides'
    omega

/-- The ranges, page by page of code points. -/
def casePages : List (List CaseRange) :=
  lowerRanges.splitBy fun range next => (range.first / 0x100).beq (next.first / 0x100)

/-- A closed range of numbers around those that some ranges map. -/
def sourceSpan (ranges : List CaseRange) : Nat × Nat :=
  ranges.foldr (fun range span => (min range.first span.1, max range.last span.2)) (0x110000, 0)

theorem apart_of_sourceSpan {a : Nat × Nat} {ranges : List CaseRange} {range : CaseRange}
    (off : apart a (sourceSpan ranges) = true) (member : range ∈ ranges) :
    apart a range.sources = true := by
  induction ranges with
  | nil => cases member
  | cons other rest ih =>
    have wider : sourceSpan (other :: rest) =
        (min other.first (sourceSpan rest).1, max other.last (sourceSpan rest).2) := rfl
    simp only [apart, wider, Bool.or_eq_true, Nat.blt_eq] at off
    rcases List.mem_cons.mp member with rfl | later
    · simp only [apart, CaseRange.sources, Bool.or_eq_true, Nat.blt_eq]
      omega
    · refine ih ?_ later
      simp only [apart, Bool.or_eq_true, Nat.blt_eq]
      omega

/-- What is needed of the tables. No range maps to a code point that is mapped itself: a page of
ranges is passed over where nothing near it is mapped to. No range maps to a blank, to one of the
two characters with rules of their own, beyond the last code point, or in front of the lower-case
letters. No blank is mapped, is one of the two characters, has case, or is ignored by it. -/
theorem tables_ordinary :
    (casePages.all fun page => lowerRanges.all fun range =>
      apart range.targets (sourceSpan page) || page.all range.clearOf) = true ∧
    (lowerRanges.all fun range => blanks.all (apart range.targets) &&
      apart range.targets (0x3a3, 0x3a3) && apart range.targets (0x130, 0x130) &&
      range.targets.2.blt 0x110000 && Nat.ble 0x61 range.target) = true ∧
    (blanks.all fun blank => lowerRanges.all (apart blank ·.sources) &&
      apart blank (0x3a3, 0x3a3) && apart blank (0x130, 0x130) &&
      caseIgnorable.all (apart blank) && cased.all (apart blank)) = true := by
  decide +kernel

theorem clearOf_of_mem {range other : CaseRange} (member : range ∈ lowerRanges)
    (among : other ∈ lowerRanges) : range.clearOf other = true := by
  have bound : casePages.flatten = lowerRanges := List.flatten_splitBy _ lowerRanges
  rw [← bound, List.mem_flatten] at among
  obtain ⟨page, listed, among⟩ := among
  obtain ⟨pages, _, _⟩ := tables_ordinary
  have clear := List.all_eq_true.mp (List.all_eq_true.mp pages page listed) range member
  rcases Bool.or_eq_true_iff.mp clear with off | clear
  · simp [CaseRange.clearOf, apart_of_sourceSpan off among]
  · exact List.all_eq_true.mp clear other among

/-- What a code point is mapped to is settled, no blank, and stands behind the first lower-case
letter. -/
theorem settled_target {range : CaseRange} {n : Nat} (member : range ∈ lowerRanges)
    (maps : range.Maps n) :
    Settled (range.target + (n - range.first)) ∧
      inRanges blanks (range.target + (n - range.first)) = false ∧
      range.target + (n - range.first) < 0x110000 ∧ 0x61 ≤ range.target := by
  have within := maps.target_within
  obtain ⟨_, targets, _⟩ := tables_ordinary
  have ordinary := List.all_eq_true.mp targets range member
  simp only [Bool.and_eq_true, Nat.blt_eq, Nat.ble_eq] at ordinary
  obtain ⟨⟨⟨⟨visible, sigma⟩, dotted⟩, bound⟩, letter⟩ := ordinary
  have notSigma := not_within_of_apart sigma within
  have notDotted := not_within_of_apart dotted within
  refine ⟨⟨by omega, by omega, ?_⟩, inRanges_of_apart visible within, by omega, letter⟩
  rcases lowerCode_cases lowerRanges (range.target + (n - range.first)) with same | found
  · exact same
  · obtain ⟨other, among, again, _⟩ := found
    exact absurd again (not_maps_of_clearOf (clearOf_of_mem member among) maps)

/-- A blank is settled, has no case and is not ignored by it. -/
theorem caseless_of_blank {c : CodePoint} (blank : isBlank c = true) :
    Settled c.code ∧ inRanges caseIgnorable c.code = false ∧ inRanges cased c.code = false := by
  obtain ⟨range, member, within⟩ := List.any_eq_true.mp blank
  simp only [Bool.and_eq_true, decide_eq_true_eq] at within
  obtain ⟨_, _, separate⟩ := tables_ordinary
  have ordinary := List.all_eq_true.mp separate range member
  simp only [Bool.and_eq_true] at ordinary
  obtain ⟨⟨⟨⟨unmapped, sigma⟩, dotted⟩, seen⟩, caseless⟩ := ordinary
  have notSigma := not_within_of_apart sigma within
  have notDotted := not_within_of_apart dotted within
  refine ⟨⟨by omega, by omega, ?_⟩, inRanges_of_apart seen within,
    inRanges_of_apart caseless within⟩
  rcases lowerCode_cases lowerRanges c.code with same | ⟨other, among, maps, _⟩
  · exact same
  · have outside := not_within_of_apart (List.all_eq_true.mp unmapped other among) within
    exact absurd ⟨maps.1, maps.2.1⟩ outside

end Tables

section Characters

theorem lowerSingle_of_settled {c : CodePoint} (settled : Settled c.code) : lowerSingle c = c := by
  rw [lowerSingle, settled.2.2, CodePoint.ofCode_code]

theorem lowerIn_of_settled {c : CodePoint} (settled : Settled c.code) (before after : Text) :
    lowerIn before c after = [c] := by
  simp only [lowerIn, if_neg settled.1, if_neg settled.2.1, lowerSingle_of_settled settled]

/-- The lower-case form of a character is settled, and blank only if the character was. -/
theorem settled_lowerSingle {c : CodePoint} (ordinary : c.code ≠ 0x3a3 ∧ c.code ≠ 0x130) :
    Settled (lowerSingle c).code ∧ (isBlank c = false → isBlank (lowerSingle c) = false) := by
  unfold lowerSingle isBlank
  rcases lowerCode_cases lowerRanges c.code with same | ⟨range, member, maps, is⟩
  · rw [same, CodePoint.ofCode_code]
    exact ⟨⟨ordinary.1, ordinary.2, same⟩, id⟩
  · obtain ⟨settled, visible, bound, _⟩ := settled_target member maps
    rw [is, CodePoint.code_ofCode bound]
    exact ⟨settled, fun _ => visible⟩

theorem settled_of_mem_lowerIn {before after : Text} {c d : CodePoint}
    (member : d ∈ lowerIn before c after) :
    Settled d.code ∧ (isBlank c = false → isBlank d = false) := by
  unfold lowerIn at member
  split at member
  · have sigma : d = .ofCode 0x3c2 ∨ d = .ofCode 0x3c3 := by
      rw [List.mem_singleton.mp member]
      split <;> simp
    rcases sigma with rfl | rfl
    · exact ⟨by decide, fun _ => by decide⟩
    · exact ⟨by decide, fun _ => by decide⟩
  split at member
  · have dotted : d = .char 'i' ∨ d = .ofCode 0x307 := by simpa using member
    rcases dotted with rfl | rfl
    · exact ⟨by decide, fun _ => by decide⟩
    · exact ⟨by decide, fun _ => by decide⟩
  · rename_i notSigma notDotted
    rw [List.mem_singleton.mp member]
    exact settled_lowerSingle ⟨notSigma, notDotted⟩

/-- In front of the lower-case letters stands nothing that another character is lower-cased to. -/
theorem eq_of_mem_lowerIn {before after : Text} {c d : CodePoint}
    (member : d ∈ lowerIn before c after) (front : d.code < 0x61) : d = c := by
  unfold lowerIn at member
  split at member
  · have sigma : d = .ofCode 0x3c2 ∨ d = .ofCode 0x3c3 := by
      rw [List.mem_singleton.mp member]
      split <;> simp
    rcases sigma with rfl | rfl <;> exact absurd front (by decide)
  split at member
  · have dotted : d = .char 'i' ∨ d = .ofCode 0x307 := by simpa using member
    rcases dotted with rfl | rfl <;> exact absurd front (by decide)
  · rw [List.mem_singleton.mp member] at front ⊢
    rw [lowerSingle] at front ⊢
    rcases lowerCode_cases lowerRanges c.code with same | ⟨range, among, maps, is⟩
    · rw [same, CodePoint.ofCode_code]
    · obtain ⟨_, _, bound, letter⟩ := settled_target among maps
      rw [is, CodePoint.code_ofCode bound] at front
      omega

theorem lowerIn_ne_nil (before : Text) (c : CodePoint) (after : Text) :
    lowerIn before c after ≠ [] := by
  unfold lowerIn
  split
  · simp
  split <;> simp

end Characters

section Lowering

theorem settled_of_mem_lowerAfter {before s : Text} {d : CodePoint}
    (member : d ∈ lowerAfter before s) : Settled d.code := by
  induction s generalizing before with
  | nil => cases member
  | cons c after ih =>
    rcases List.mem_append.mp member with here | later
    · exact (settled_of_mem_lowerIn here).1
    · exact ih later

theorem lowerAfter_of_settled {s : Text} (settled : ∀ c ∈ s, Settled c.code) (before : Text) :
    lowerAfter before s = s := by
  induction s generalizing before with
  | nil => rfl
  | cons c after ih =>
    rw [lowerAfter_cons, lowerIn_of_settled (settled c (by simp)),
      ih fun d member => settled d (List.mem_cons_of_mem _ member)]
    rfl

/-- Without the two characters that have rules of their own, characters are lower-cased one by one. -/
theorem lowerAfter_of_ordinary {s : Text} (ordinary : ∀ c ∈ s, c.code ≠ 0x3a3 ∧ c.code ≠ 0x130)
    (before : Text) : lowerAfter before s = s.map lowerSingle := by
  induction s generalizing before with
  | nil => rfl
  | cons c after ih =>
    obtain ⟨⟨notSigma, notDotted⟩, later⟩ := List.forall_mem_cons.mp ordinary
    rw [lowerAfter_cons, ih later, lowerIn, if_neg notSigma, if_neg notDotted]
    rfl

/-- A mark in front of the lower-case letters is neither made by lower-casing nor lost. -/
theorem mem_lowerAfter_iff {mark : CodePoint} (settled : Settled mark.code)
    (front : mark.code < 0x61) {before s : Text} : mark ∈ lowerAfter before s ↔ mark ∈ s := by
  induction s generalizing before with
  | nil => exact Iff.rfl
  | cons c after ih =>
    rw [lowerAfter_cons, List.mem_append, List.mem_cons, ih]
    refine or_congr_left ⟨fun member => eq_of_mem_lowerIn member front, ?_⟩
    rintro rfl
    rw [lowerIn_of_settled settled]
    exact List.mem_cons_self

/-- Lower-casing makes no blanks and loses none. -/
theorem unblank_lowerAfter_iff {before s : Text} :
    (∀ d ∈ lowerAfter before s, isBlank d = false) ↔ ∀ c ∈ s, isBlank c = false := by
  induction s generalizing before with
  | nil => exact Iff.rfl
  | cons c after ih =>
    rw [lowerAfter_cons, List.forall_mem_append, List.forall_mem_cons, ih]
    refine and_congr_left' ⟨fun each => ?_, fun own d member => (settled_of_mem_lowerIn member).2 own⟩
    by_contra blank
    rw [lowerIn_of_settled (caseless_of_blank (by simpa using blank)).1] at each
    exact blank (each c List.mem_cons_self)

/-- Lower-casing twice is lower-casing once. -/
theorem lower_lower (s : Text) : lower (lower s) = lower s :=
  lowerAfter_of_settled (fun _ member => settled_of_mem_lowerAfter member) []

theorem lower_eq_nil {s : Text} : lower s = [] ↔ s = [] := by
  cases s with
  | nil => simp [lower, lowerAfter_nil]
  | cons c after => simp [lower, lowerAfter_cons, lowerIn_ne_nil]

/-- Nothing is seen past a blank. -/
theorem meetsCased_of_blank {c : CodePoint} (blank : isBlank c = true) (near far : Text) :
    meetsCased (near ++ c :: far) = meetsCased near := by
  obtain ⟨_, seen, caseless⟩ := caseless_of_blank blank
  induction near with
  | nil => simp [meetsCased, seen, caseless]
  | cons d near ih =>
    unfold meetsCased at ih ⊢
    rw [List.cons_append, List.dropWhile_cons, List.dropWhile_cons]
    by_cases ignored : inRanges caseIgnorable d.code = true
    · rw [if_pos ignored, if_pos ignored, ih]
    · rw [if_neg ignored, if_neg ignored]

/-- Behind a blank, a text is lower-cased as if nothing stood before it. -/
theorem lowerAfter_of_blank {c : CodePoint} (blank : isBlank c = true) (near far s : Text) :
    lowerAfter (near ++ c :: far) s = lowerAfter near s := by
  induction s generalizing near with
  | nil => rfl
  | cons d after ih =>
    rw [lowerAfter_cons, lowerAfter_cons, ← List.cons_append, ih]
    simp only [lowerIn, meetsCased_of_blank blank]

theorem lower_blanks_append {blanks : Text} (blank : ∀ c ∈ blanks, isBlank c = true) (s : Text) :
    lower (blanks ++ s) = blanks ++ lower s := by
  induction blanks with
  | nil => rfl
  | cons c rest ih =>
    have first := blank c (by simp)
    have later := ih fun d member => blank d (List.mem_cons_of_mem _ member)
    -- Behind a blank, lower-casing goes on as at the beginning of a text.
    have fresh : lowerAfter [c] (rest ++ s) = lower (rest ++ s) :=
      lowerAfter_of_blank first [] [] (rest ++ s)
    rw [List.cons_append, lower, lowerAfter_cons, lowerIn_of_settled (caseless_of_blank first).1,
      fresh, later]
    rfl

theorem lowerAfter_append_blanks {blanks : Text} (blank : ∀ c ∈ blanks, isBlank c = true)
    (before s : Text) : lowerAfter before (s ++ blanks) = lowerAfter before s ++ blanks := by
  induction s generalizing before with
  | nil =>
    exact lowerAfter_of_settled (fun c member => (caseless_of_blank (blank c member)).1) before
  | cons c after ih =>
    have context : lowerIn before c (after ++ blanks) = lowerIn before c after := by
      cases blanks with
      | nil => rw [List.append_nil]
      | cons d rest => simp only [lowerIn, meetsCased_of_blank (blank d (by simp))]
    rw [List.cons_append, lowerAfter_cons, lowerAfter_cons, context, ih, List.append_assoc]

/-- A text ends in the lower-case form of its last character. -/
theorem lowerAfter_concat (before s : Text) (c : CodePoint) :
    ∃ front near, lowerAfter before (s ++ [c]) = front ++ lowerIn near c [] := by
  induction s generalizing before with
  | nil => exact ⟨[], before, by simp [lowerAfter_nil, lowerAfter_cons]⟩
  | cons d rest ih =>
    obtain ⟨front, near, is⟩ := ih (d :: before)
    refine ⟨lowerIn before d (rest ++ [c]) ++ front, near, ?_⟩
    rw [List.cons_append, lowerAfter_cons, is, List.append_assoc]

end Lowering

section Trimming

theorem trimLeft_blanks_append {blanks : Text} (blank : ∀ c ∈ blanks, isBlank c = true) (s : Text) :
    trimLeft (blanks ++ s) = trimLeft s := List.dropWhile_append_of_pos blank

theorem trimLeft_eq_self {s : Text} (opens : ∀ c ∈ s.head?, isBlank c = false) :
    trimLeft s = s := by
  cases s with
  | nil => rfl
  | cons c rest => rw [trimLeft, List.dropWhile_cons_of_neg (by simp [opens c rfl])]

/-- A text without blanks at its ends. -/
structure Tight (s : Text) : Prop where
  opens : ∀ c ∈ s.head?, isBlank c = false
  ends : ∀ c ∈ s.getLast?, isBlank c = false

theorem trim_of_tight {s : Text} (tight : Tight s) : trim s = s := by
  rw [trim, trimLeft_eq_self tight.opens, trimRight, trimLeft_eq_self, List.reverse_reverse]
  rw [List.head?_reverse]
  exact tight.ends

/-- Blanks around a text are trimmed away. -/
theorem trim_between_blanks {before after : Text} (opening : ∀ c ∈ before, isBlank c = true)
    (closing : ∀ c ∈ after, isBlank c = true) (s : Text) :
    trim (before ++ s ++ after) = trim s := by
  have reversed : ∀ c ∈ after.reverse, isBlank c = true := fun c member =>
    closing c (List.mem_reverse.mp member)
  have right (t : Text) : trimRight (t ++ after) = trimRight t := by
    rw [trimRight, trimRight, List.reverse_append, trimLeft_blanks_append reversed]
  rw [trim, trim, List.append_assoc, trimLeft_blanks_append opening]
  cases all : trimLeft s with
  | nil =>
    have allBlank : ∀ c ∈ s, isBlank c = true := List.dropWhile_eq_nil_iff.mp all
    rw [trimLeft_blanks_append allBlank, ← List.append_nil after, trimLeft_blanks_append closing]
    rfl
  | cons c rest =>
    have kept : trimLeft (s ++ after) = trimLeft s ++ after := by
      simp only [trimLeft] at all ⊢
      rw [List.dropWhile_append, all]
      rfl
    rw [kept, right, all]

theorem opens_trimLeft {s : Text} : ∀ c ∈ (trimLeft s).head?, isBlank c = false := by
  intro c opens
  have first := List.head?_dropWhile_not isBlank s
  rw [show (s.dropWhile isBlank).head? = some c from opens] at first
  exact first

/-- A text consists of what trimming at the end leaves of it, and blanks. -/
theorem trimRight_split (s : Text) :
    ∃ after, s = trimRight s ++ after ∧ ∀ c ∈ after, isBlank c = true := by
  refine ⟨(s.reverse.takeWhile isBlank).reverse, ?_, fun c member => ?_⟩
  · rw [trimRight, ← List.reverse_append, trimLeft, List.takeWhile_append_dropWhile,
      List.reverse_reverse]
  · exact List.mem_takeWhile_imp (List.mem_reverse.mp member)

/-- A text consists of blanks, what trimming leaves of it, and blanks. -/
theorem trim_split (s : Text) : ∃ before after, s = before ++ trim s ++ after ∧ Tight (trim s) ∧
    (∀ c ∈ before, isBlank c = true) ∧ ∀ c ∈ after, isBlank c = true := by
  obtain ⟨after, split, closing⟩ := trimRight_split (trimLeft s)
  refine ⟨s.takeWhile isBlank, after, ?_, ⟨?_, ?_⟩, fun c => List.mem_takeWhile_imp, closing⟩
  · rw [List.append_assoc, trim, ← split, trimLeft, List.takeWhile_append_dropWhile]
  · intro c opens
    refine opens_trimLeft (s := s) c ?_
    have first : (trim s).head? = some c := opens
    rw [split, List.head?_append]
    exact Option.mem_def.mpr (by rw [show trimRight (trimLeft s) = trim s from rfl, first]; rfl)
  · intro c ends
    refine opens_trimLeft (s := (trimLeft s).reverse) c ?_
    rwa [trim, trimRight, List.getLast?_reverse] at ends

/-- Trimming leaves nothing of blanks, and something of every other text. -/
theorem trim_eq_nil {s : Text} : trim s = [] ↔ ∀ c ∈ s, isBlank c = true := by
  constructor
  · intro nothing
    obtain ⟨before, after, split, _, opening, closing⟩ := trim_split s
    rw [split, nothing, List.append_nil]
    exact List.forall_mem_append.mpr ⟨opening, closing⟩
  · intro blank
    have trimmed : trim (s ++ [] ++ []) = [] := trim_between_blanks blank (List.forall_mem_nil _) []
    rwa [List.append_nil, List.append_nil] at trimmed

/-- Lower-casing opens and ends a text with blanks only where it did so before. -/
theorem tight_lower {s : Text} (tight : Tight s) : Tight (lower s) := by
  constructor
  · intro d opens
    cases s with
    | nil => cases opens
    | cons c after =>
      rw [lower, lowerAfter_cons, List.head?_append_of_ne_nil _ (lowerIn_ne_nil [] c after)] at opens
      exact (settled_of_mem_lowerIn (List.mem_of_mem_head? opens)).2 (tight.opens c rfl)
  · intro d ends
    rcases List.eq_nil_or_concat' s with rfl | ⟨rest, c, rfl⟩
    · cases ends
    · obtain ⟨front, near, is⟩ := lowerAfter_concat [] rest c
      rw [lower, is, List.getLast?_append_of_ne_nil _ (lowerIn_ne_nil near c [])] at ends
      exact (settled_of_mem_lowerIn (List.mem_of_mem_getLast? ends)).2 (tight.ends c (by simp))

/-- The trimmed lower-case form of a text is that of its lower-case form. -/
theorem lower_trim_lower (s : Text) : lower (trim (lower s)) = lower (trim s) := by
  obtain ⟨before, after, split, tight, opening, closing⟩ := trim_split s
  have lowered : lower s = before ++ lower (trim s) ++ after := by
    have ends : lower (trim s ++ after) = lower (trim s) ++ after :=
      lowerAfter_append_blanks closing [] (trim s)
    rw [List.append_assoc, ← ends, ← lower_blanks_append opening, ← List.append_assoc, ← split]
  rw [lowered, trim_between_blanks opening closing, trim_of_tight (tight_lower tight), lower_lower]

end Trimming

end Text

end ConversionRelay
