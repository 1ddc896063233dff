import ConversionRelay.Container.NamePath
import ConversionRelay.Proofs.Text.Case
import Mathlib.Data.List.Forall2
/-!
What the paths look like that names suggest.

A path is in lower case and has no spaces, whichever rule gave it. That no segment of it is empty is
not looked after: a name with a dot has the empty segments of its path already. Nor is it looked
after that a name without a dot has no blanks but spaces; it keeps those it has.

Main statement: what a path that is suggested is like, and which names suggest none
(`NamePath.suggested_forms`).
-/
namespace ConversionRelay

open Text

/-- No segment between the dots of a text is empty. -/
def Segmented (s : Text) : Prop := ∀ segment ∈ cut '.' s, segment ≠ []

/-- A text holds no blank of any kind. -/
def Unblank (s : Text) : Prop := ∀ c ∈ s, isBlank c = false

instance : DecidablePred Segmented := fun s =>
  inferInstanceAs (Decidable (∀ segment ∈ cut '.' s, segment ≠ []))

instance : DecidablePred Unblank := fun s =>
  inferInstanceAs (Decidable (∀ c ∈ s, isBlank c = false))

section Segments

theorem segmented_of_not_mem {s : Text} (undotted : CodePoint.char '.' ∉ s) (nonempty : s ≠ []) :
    Segmented s := by
  rw [Segmented, cut_of_not_mem undotted]
  exact List.forall_mem_singleton.mpr nonempty

theorem unblank_removeBlanks (s : Text) : Unblank (removeBlanks s) := by
  intro c member
  simpa using (List.mem_filter.mp member).2

theorem removeBlanks_append (s t : Text) :
    removeBlanks (s ++ t) = removeBlanks s ++ removeBlanks t := List.filter_append s t

theorem removeBlanks_of_unblank {s : Text} (unblank : Unblank s) : removeBlanks s = s := by
  rw [removeBlanks, List.filter_eq_self]
  intro c member
  simpa using unblank c member

theorem removeBlanks_of_blank {s : Text} (blank : ∀ c ∈ s, isBlank c = true) :
    removeBlanks s = [] := by
  rw [removeBlanks, List.filter_eq_nil_iff]
  intro c member
  simpa using blank c member

/-- The blanks at the ends of a text are blanks like others. -/
theorem removeBlanks_trim (s : Text) : removeBlanks (trim s) = removeBlanks s := by
  obtain ⟨before, after, split, _, opening, closing⟩ := trim_split s
  conv_rhs => rw [split]
  rw [removeBlanks_append, removeBlanks_append, removeBlanks_of_blank opening,
    removeBlanks_of_blank closing, List.nil_append, List.append_nil]

theorem mem_removeBlanks_iff {mark : CodePoint} (visible : isBlank mark = false) {s : Text} :
    mark ∈ removeBlanks s ↔ mark ∈ s := by
  simp [removeBlanks, visible]

theorem mem_trim_iff {mark : CodePoint} (visible : isBlank mark = false) {s : Text} :
    mark ∈ trim s ↔ mark ∈ s := by
  rw [← mem_removeBlanks_iff visible, removeBlanks_trim, mem_removeBlanks_iff visible]

/-- Something is left of a trimmed text that is not empty. -/
theorem removeBlanks_ne_nil {s : Text} (tight : Tight s) (nonempty : s ≠ []) :
    removeBlanks s ≠ [] := by
  obtain ⟨c, rest, rfl⟩ := List.exists_cons_of_ne_nil nonempty
  have first : c ∈ removeBlanks (c :: rest) :=
    (mem_removeBlanks_iff (tight.opens c rfl)).mpr List.mem_cons_self
  exact List.ne_nil_of_mem first

theorem Unblank.unspaced {s : Text} (unblank : Unblank s) : CodePoint.char ' ' ∉ s := fun member =>
  absurd (unblank _ member) (by decide)

theorem Unblank.tight {s : Text} (unblank : Unblank s) : Tight s where
  opens c first := unblank c (List.mem_of_mem_head? first)
  ends c last := unblank c (List.mem_of_mem_getLast? last)

/-- Lower-casing leaves no segment empty that was not, and fills none. -/
theorem cut_lowerAfter (before s : Text) :
    List.Forall₂ (fun lowered segment => lowered = [] ↔ segment = [])
      (cut '.' (removeBlanks (lowerAfter before s))) (cut '.' (removeBlanks s)) := by
  -- A character may be lower-cased to two, so segments are compared by no more than emptiness.
  induction s generalizing before with
  | nil => exact .cons Iff.rfl .nil
  | cons c after ih =>
    have others := ih (c :: before)
    have split : removeBlanks (c :: after) = removeBlanks [c] ++ removeBlanks after :=
      removeBlanks_append [c] after
    rw [lowerAfter_cons, removeBlanks_append, split]
    by_cases blank : isBlank c = true
    · rw [lowerIn_of_settled (caseless_of_blank blank).1,
        removeBlanks_of_blank (List.forall_mem_singleton.mpr blank)]
      exact others
    have unblank : Unblank (lowerIn before c after) := fun d member =>
      (settled_of_mem_lowerIn member).2 (by simpa using blank)
    rw [removeBlanks_of_unblank unblank,
      removeBlanks_of_unblank (List.forall_mem_singleton.mpr (by simpa using blank))]
    by_cases dot : c = '.'
    · subst dot
      have settled : Settled (CodePoint.char '.').code := by decide
      rw [lowerIn_of_settled settled]
      exact .cons Iff.rfl others
    · -- Any other character fills the segment that it stands in, on both sides.
      have undotted : CodePoint.char '.' ∉ lowerIn before c after := fun member =>
        dot (eq_of_mem_lowerIn member (by decide)).symm
      have other : CodePoint.char '.' ∉ [c] := fun member => dot (List.mem_singleton.mp member).symm
      obtain ⟨p, ps, first, joined⟩ :=
        cut_append_of_not_mem undotted (removeBlanks (lowerAfter (c :: before) after))
      obtain ⟨q, qs, second, joined'⟩ := cut_append_of_not_mem other (removeBlanks after)
      rw [first, second] at others
      rw [joined, joined']
      have tails := (List.forall₂_cons.mp others).2
      exact .cons (iff_of_false (by simp [lowerIn_ne_nil]) (by simp)) tails

theorem segmented_lower (s : Text) :
    Segmented (removeBlanks (lower s)) ↔ Segmented (removeBlanks s) := by
  have related := cut_lowerAfter [] s
  unfold Segmented lower
  generalize cut '.' (removeBlanks (lowerAfter [] s)) = xs at related ⊢
  generalize cut '.' (removeBlanks s) = ys at related ⊢
  induction related with
  | nil => exact Iff.rfl
  | cons first _ ih =>
    rw [List.forall_mem_cons, List.forall_mem_cons]
    exact and_congr (not_congr first) ih

end Segments

section Letters

variable {c : CodePoint}

theorem code_of_isLower (letter : c.isLower = true) : 0x61 ≤ c.code ∧ c.code ≤ 0x7a := by
  cases c with
  | surrogate half => cases letter
  | char c =>
    obtain ⟨from_, upTo⟩ := Bool.and_eq_true_iff.mp letter
    exact ⟨of_decide_eq_true from_, of_decide_eq_true upTo⟩

theorem code_of_isUpper (letter : c.isUpper = true) : 0x41 ≤ c.code ∧ c.code ≤ 0x5a := by
  cases c with
  | surrogate half => cases letter
  | char c => exact of_decide_eq_true letter

theorem isLetter_eq (c : CodePoint) : c.isLetter = (c.isUpper || c.isLower) := by
  cases c <;> rfl

theorem isLetter_of_isLower (small : c.isLower = true) : c.isLetter = true := by
  rw [isLetter_eq, small, Bool.or_true]

theorem isLetter_of_isUpper (capital : c.isUpper = true) : c.isLetter = true := by
  rw [isLetter_eq, capital, Bool.true_or]

theorem isUpper_of_isLower (small : c.isLower = true) : c.isUpper = false := by
  by_contra capital
  have range := code_of_isLower small
  have range' := code_of_isUpper (c := c) (by simpa using capital)
  omega

theorem code_of_isLetter (letter : c.isLetter = true) :
    0x41 ≤ c.code ∧ c.code ≤ 0x5a ∨ 0x61 ≤ c.code ∧ c.code ≤ 0x7a := by
  rw [isLetter_eq, Bool.or_eq_true] at letter
  exact letter.imp code_of_isUpper code_of_isLower

theorem isBlank_of_isLetter (letter : c.isLetter = true) : isBlank c = false := by
  have range := code_of_isLetter letter
  simp only [isBlank, inRanges, blanks, List.any_cons, List.any_nil, Bool.or_false,
    Bool.or_eq_false_iff, Bool.and_eq_false_iff, decide_eq_false_iff_not]
  omega

end Letters

namespace NamePath

section Rules

variable {name path : Text}

/-- The rule by which a trimmed name suggests a path. -/
inductive Suggests (name : Text) : Text → Prop
  | dotted (dot : CodePoint.char '.' ∈ name) : Suggests name (removeBlanks (lower name))
  | camel (undotted : CodePoint.char '.' ∉ name) (humps : isCamelCase name = true) :
      Suggests name (ofCamelCase name)
  | branch (undotted : CodePoint.char '.' ∉ name) (flat : isCamelCase name = false)
      (unspaced : CodePoint.char ' ' ∉ name) (known : startsKnown (lower name) = true) :
      Suggests name (lower name)

theorem ofTrimmed?_eq_some : ofTrimmed? name = some path ↔ Suggests name path := by
  constructor
  · intro suggests
    unfold ofTrimmed? at suggests
    split at suggests
    · rename_i dot
      cases suggests
      exact .dotted (List.contains_iff_mem.mp dot)
    rename_i undotted
    rw [List.contains_iff_mem] at undotted
    split at suggests
    · rename_i humps
      cases suggests
      exact .camel undotted humps
    rename_i flat
    split at suggests
    · cases suggests
    rename_i unspaced
    rw [List.contains_iff_mem] at unspaced
    split at suggests
    · rename_i known
      cases suggests
      exact .branch undotted (by simpa using flat) unspaced known
    · cases suggests
  · intro suggests
    cases suggests with
    | dotted dot => simp [ofTrimmed?, dot]
    | camel undotted humps => simp [ofTrimmed?, undotted, humps]
    | branch undotted flat unspaced known => simp [ofTrimmed?, undotted, flat, unspaced, known]

/-- A name has no path if the last two rules refuse it. -/
theorem ofTrimmed?_eq_none : ofTrimmed? name = none ↔ CodePoint.char '.' ∉ name ∧
    isCamelCase name = false ∧ (CodePoint.char ' ' ∈ name ∨ startsKnown (lower name) = false) := by
  unfold ofTrimmed?
  by_cases dot : CodePoint.char '.' ∈ name
  · simp [dot]
  by_cases humps : isCamelCase name = true
  · simp [dot, humps]
  by_cases space : CodePoint.char ' ' ∈ name
  · simp [dot, humps, space]
  · simp [dot, humps, space]

end Rules

section Humps

variable {c : CodePoint} {rest : Text}

theorem mem_dotCapitals {d : CodePoint} (member : d ∈ dotCapitals rest) : d = '.' ∨ d ∈ rest := by
  obtain ⟨c, among, member⟩ := List.mem_flatMap.mp member
  split at member
  · obtain dot | same := List.mem_pair.mp member
    · exact .inl dot
    · exact .inr (same ▸ among)
  · exact .inr (List.mem_singleton.mp member ▸ among)

/-- A dot is put in front of capitals only, so no two dots come together. -/
theorem segmented_dotCapitals (other : c ≠ '.') (letters : ∀ d ∈ rest, d.isLetter = true) :
    Segmented (c :: dotCapitals rest) := by
  have undotted : CodePoint.char '.' ∉ [c] := fun member => other (List.mem_singleton.mp member).symm
  induction rest generalizing c with
  | nil => exact segmented_of_not_mem undotted (List.cons_ne_nil c [])
  | cons d rest ih =>
    obtain ⟨letter, letters⟩ := List.forall_mem_cons.mp letters
    have notDot : d ≠ '.' := by
      rintro rfl
      cases letter
    have later := ih notDot letters fun member => notDot (List.mem_singleton.mp member).symm
    by_cases capital : d.isUpper = true
    · have dotted : c :: dotCapitals (d :: rest) =
          [c] ++ CodePoint.char '.' :: d :: dotCapitals rest := by
        simp [dotCapitals, capital]
      rw [dotted, Segmented, cut_append undotted]
      exact List.forall_mem_cons.mpr ⟨List.cons_ne_nil c [], later⟩
    · have joined : c :: dotCapitals (d :: rest) = [c] ++ d :: dotCapitals rest := by
        simp [dotCapitals, capital]
      obtain ⟨piece, pieces, is, cuts⟩ := cut_append_of_not_mem undotted (d :: dotCapitals rest)
      rw [Segmented, is] at later
      rw [joined, Segmented, cuts]
      exact List.forall_mem_cons.mpr ⟨List.cons_ne_nil c piece, (List.forall_mem_cons.mp later).2⟩

/-- A line feed at the end would be overlooked. -/
theorem isCamelShape_cons (unbroken : (c :: rest).getLast? ≠ some (CodePoint.char '\n')) :
    isCamelShape (c :: rest) = (c.isLower && rest.all CodePoint.isLetter) := by
  have whole : (if (c :: rest).getLast? = some '\n' then (c :: rest).dropLast else c :: rest) =
      c :: rest := if_neg unbroken
  rw [isCamelShape, whole]

/-- A trimmed name in camel case is a small letter with letters behind it. -/
theorem letters_of_isCamelCase {name : Text} (tight : Tight name)
    (humps : isCamelCase name = true) :
    ∃ c rest, name = c :: rest ∧ c.isLower = true ∧ ∀ d ∈ rest, d.isLetter = true := by
  have shape := (Bool.and_eq_true_iff.mp humps).1
  cases name with
  | nil => cases shape
  | cons c rest =>
    rw [isCamelShape_cons fun ended => absurd (tight.ends _ ended) (by decide)] at shape
    obtain ⟨small, letters⟩ := Bool.and_eq_true_iff.mp shape
    exact ⟨c, rest, rfl, small, List.all_eq_true.mp letters⟩

theorem ne_dot_of_isLower (small : c.isLower = true) : c ≠ '.' := by
  rintro rfl
  cases small

/-- A small letter is left alone by lower-casing. -/
theorem settled_of_isLower (small : c.isLower = true) : Settled c.code := by
  have settled : ∀ n < 0x7b, 0x61 ≤ n → Settled n := by decide
  obtain ⟨from_, upTo⟩ := code_of_isLower small
  exact settled c.code (by omega) from_

/-- The path of a trimmed name in camel case. -/
theorem ofCamelCase_eq (small : c.isLower = true) :
    ofCamelCase (c :: rest) = lower (c :: dotCapitals rest) := by
  have dotted : dotCapitals (c :: rest) = c :: dotCapitals rest := by
    simp [dotCapitals, isUpper_of_isLower small]
  rw [ofCamelCase, dotted, lower, lowerAfter, lowerIn_of_settled (settled_of_isLower small),
    List.singleton_append, List.dropWhile_cons_of_neg]
  simpa using ne_dot_of_isLower small

end Humps

section Forms

/-- What the path is like that a name suggests. -/
structure Forms (name path : Text) : Prop where
  nonempty : path ≠ []
  lowered : lower path = path
  unspaced : CodePoint.char ' ' ∉ path
  /-- The path has no empty segment but those of the name. -/
  segmented : Segmented path ↔ Segmented (removeBlanks name)
  /-- Blanks that are not spaces stay inside a name without a dot. -/
  unblank : Unblank path ↔ CodePoint.char '.' ∈ name ∨ Unblank (trim name)

variable {name : Text}

theorem forms_of_dotted (dot : CodePoint.char '.' ∈ trim name) :
    Forms name (removeBlanks (lower (trim name))) := by
  have visible : isBlank (CodePoint.char '.') = false := by decide
  have unblank := unblank_removeBlanks (lower (trim name))
  have kept : CodePoint.char '.' ∈ removeBlanks (lower (trim name)) := by
    rw [mem_removeBlanks_iff visible, lower, mem_lowerAfter_iff (by decide) (by decide)]
    exact dot
  exact {
    nonempty := List.ne_nil_of_mem kept
    lowered := lowerAfter_of_settled
      (fun _ member => settled_of_mem_lowerAfter (List.mem_of_mem_filter member)) []
    unspaced := unblank.unspaced
    segmented := by rw [segmented_lower, removeBlanks_trim]
    unblank := iff_of_true unblank (.inl ((mem_trim_iff visible).mp dot)) }

theorem forms_of_camel (tight : Tight (trim name)) (undotted : CodePoint.char '.' ∉ trim name)
    (humps : isCamelCase (trim name) = true) : Forms name (ofCamelCase (trim name)) := by
  obtain ⟨c, rest, is, small, letters⟩ := letters_of_isCamelCase tight humps
  have first : c.isLetter = true := isLetter_of_isLower small
  have named : Unblank (c :: rest) := List.forall_mem_cons.mpr
    ⟨isBlank_of_isLetter first, fun d member => isBlank_of_isLetter (letters d member)⟩
  have dotted : Unblank (c :: dotCapitals rest) := by
    refine List.forall_mem_cons.mpr ⟨isBlank_of_isLetter first, fun d member => ?_⟩
    obtain rfl | member := mem_dotCapitals member
    · decide
    · exact isBlank_of_isLetter (letters d member)
  have unblank : Unblank (lower (c :: dotCapitals rest)) := unblank_lowerAfter_iff.mpr dotted
  have segmented : Segmented (lower (c :: dotCapitals rest)) := by
    have own := segmented_dotCapitals (ne_dot_of_isLower small) letters
    rw [← removeBlanks_of_unblank dotted, ← segmented_lower] at own
    rwa [removeBlanks_of_unblank unblank] at own
  have whole : Segmented (removeBlanks name) := by
    rw [← removeBlanks_trim, is, removeBlanks_of_unblank named]
    exact segmented_of_not_mem (is ▸ undotted) (List.cons_ne_nil c rest)
  rw [is, ofCamelCase_eq small]
  exact {
    nonempty := fun empty => List.cons_ne_nil _ _ (lower_eq_nil.mp empty)
    lowered := lower_lower _
    unspaced := unblank.unspaced
    segmented := iff_of_true segmented whole
    unblank := iff_of_true unblank (.inr (is ▸ named)) }

theorem forms_of_branch (tight : Tight (trim name)) (undotted : CodePoint.char '.' ∉ trim name)
    (unspaced : CodePoint.char ' ' ∉ trim name) (known : startsKnown (lower (trim name)) = true) :
    Forms name (lower (trim name)) := by
  have visible : isBlank (CodePoint.char '.') = false := by decide
  have nonempty : trim name ≠ [] := by
    intro empty
    rw [empty] at known
    exact absurd known (by decide)
  have lowered : lower (trim name) ≠ [] := fun empty => nonempty (lower_eq_nil.mp empty)
  have undotted' : CodePoint.char '.' ∉ lower (trim name) := by
    rwa [lower, mem_lowerAfter_iff (by decide) (by decide)]
  have whole : Segmented (removeBlanks name) := by
    rw [← removeBlanks_trim]
    exact segmented_of_not_mem (fun dot => undotted ((mem_removeBlanks_iff visible).mp dot))
      (removeBlanks_ne_nil tight nonempty)
  have noDot : CodePoint.char '.' ∉ name := fun dot => undotted ((mem_trim_iff visible).mpr dot)
  exact {
    nonempty := lowered
    lowered := lower_lower _
    unspaced := by rwa [lower, mem_lowerAfter_iff (by decide) (by decide)]
    segmented := iff_of_true (segmented_of_not_mem undotted' lowered) whole
    unblank := by
      rw [or_iff_right noDot]
      exact unblank_lowerAfter_iff }

/-- A path that a name suggests is not empty, is in lower case and has no spaces. A name with empty
segments suggests a path with empty segments, and blanks other than spaces stay inside a name without
a dot; apart from that, the segments of a path are not empty and it has no blanks. No path is
suggested by a name without a dot that is not in camel case either, and has a space or does not begin
like a known branch. -/
theorem suggested_forms (name : Text) :
    (∀ path, ofName? name = some path → Forms name path) ∧
    (ofName? name = none ↔ CodePoint.char '.' ∉ name ∧ isCamelCase (trim name) = false ∧
      (CodePoint.char ' ' ∈ trim name ∨ startsKnown (lower (trim name)) = false)) := by
  obtain ⟨_, _, _, tight, _⟩ := trim_split name
  constructor
  · intro path suggests
    cases ofTrimmed?_eq_some.mp suggests with
    | dotted dot => exact forms_of_dotted dot
    | camel undotted humps => exact forms_of_camel tight undotted humps
    | branch undotted _ unspaced known => exact forms_of_branch tight undotted unspaced known
  · rw [ofName?, ofTrimmed?_eq_none, mem_trim_iff (by decide)]

theorem suggested_forms_total :
    ofName? "ecommerceTotal" = some (Text.ofString "ecommerce.total") ∧
      Forms "ecommerceTotal" "ecommerce.total" := by
  have suggests : ofName? "ecommerceTotal" = some (Text.ofString "ecommerce.total") := by
    decide +kernel
  exact ⟨suggests, (suggested_forms "ecommerceTotal").1 _ suggests⟩

/-- A name with an empty segment and a name with a tab are their own paths. -/
theorem suggested_unformed :
    (ofName? "a..b" = some (Text.ofString "a..b") ∧ ¬Segmented "a..b") ∧
    (ofName? "event\tname" = some (Text.ofString "event\tname") ∧ ¬Unblank "event\tname") ∧
    ¬ ∀ name path, ofName? name = some path →
      path ≠ [] ∧ Segmented path ∧ Unblank path ∧ lower path = path := by
  have doubled : ofName? "a..b" = some (Text.ofString "a..b") ∧ ¬Segmented "a..b" := by
    decide +kernel
  have tabbed : ofName? "event\tname" = some (Text.ofString "event\tname") ∧
      ¬Unblank "event\tname" := by
    decide +kernel
  exact ⟨doubled, tabbed, fun formed => doubled.2 (formed _ _ doubled.1).2.1⟩

end Forms

end NamePath

end ConversionRelay
