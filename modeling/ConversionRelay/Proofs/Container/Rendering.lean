import ConversionRelay.Proofs.Container.Mentions
import ConversionRelay.Proofs.Container.Scanning
import ConversionRelay.Proofs.Text.Case
/-!
Tags that are written from names.

A name is written between doubled braces, with blanks around it, and other text without braces may
stand between two references. What can be a name at all is what can be read back: it is not empty,
has no blanks at its ends and no closing brace, though it may hold opening ones, even at its start.

Main statement: a tag written from names refers to exactly these names, every variable of any tag is
a name that can be written, and so a tag that is written from the variables of another one has the
same variables (`Reference.variables_rendered`).
-/
namespace ConversionRelay.Reference

open Text Value

section Writing

/-- A text that a reference can name. -/
structure IsName (name : Text) : Prop where
  nonempty : name ≠ []
  trimmed : trim name = name
  unclosed : closingBrace ∉ name

/-- A text without braces. -/
def Plain (s : Text) : Prop := ∀ c ∈ s, c ≠ openingBrace ∧ c ≠ closingBrace

instance (s : Text) : Decidable (Plain s) :=
  inferInstanceAs (Decidable (∀ c ∈ s, c ≠ openingBrace ∧ c ≠ closingBrace))

/-- A name as a text refers to it: what stands in front of the reference, and the blanks around the
name. -/
structure Written where
  before : Text
  opening : Text
  name : Text
  closing : Text
  plain : Plain before
  opensBlank : ∀ c ∈ opening, isBlank c = true
  closesBlank : ∀ c ∈ closing, isBlank c = true

/-- What stands between the braces of a reference. -/
def Written.inside (reference : Written) : Text :=
  reference.opening ++ reference.name ++ reference.closing

/-- A text with a number of references and what stands behind them. -/
def render : List Written → Text → Text
  | [], behind => behind
  | first :: others, behind =>
    first.before ++ openingBrace :: openingBrace ::
      (first.inside ++ closingBrace :: closingBrace :: render others behind)

/-- A tag with a single parameter, of which a text is all that is looked through. -/
def HasText (tag : Value) (text : Text) : Prop :=
  ∃ fields parameter, tag = .object fields ∧
    fieldOf fields "parameter" = .array [.object parameter] ∧
    fieldOf parameter "value" = .string text ∧
    fieldOf parameter "list" = .null ∧ fieldOf parameter "map" = .null

end Writing

section Reading

variable {s name behind : Text} {references : List Written}

/-- What stands behind the first braces of a text is all that follows a plain front. -/
theorem opens_plain {front : Text} (plain : Plain front) (capture : Text) :
    Opens (front ++ openingBrace :: openingBrace :: capture) capture := by
  induction front with
  | nil => exact opens_openingBraces.mpr rfl
  | cons c front ih =>
    obtain ⟨first, others⟩ := List.forall_mem_cons.mp plain
    refine (opens_cons ?_).mpr (ih others)
    rintro ⟨rest, is⟩
    exact first.1 (List.cons.inj is).1.symm

namespace Written

variable {reference : Written}

theorem trim_inside (reference : Written) : trim reference.inside = trim reference.name :=
  trim_between_blanks reference.opensBlank reference.closesBlank reference.name

theorem unclosed_inside (isName : IsName reference.name) : closingBrace ∉ reference.inside := by
  have notBlank : ¬isBlank closingBrace = true := by decide
  intro member
  rcases List.mem_append.mp member with member | closing
  · rcases List.mem_append.mp member with opening | name
    · exact notBlank (reference.opensBlank _ opening)
    · exact isName.unclosed name
  · exact notBlank (reference.closesBlank _ closing)

theorem inside_ne_nil (isName : IsName reference.name) : reference.inside ≠ [] := by
  intro empty
  have parts := List.append_eq_nil_iff.mp (List.append_eq_nil_iff.mp empty).1
  exact isName.nonempty parts.2

/-- A scan captures a reference that is written in front of a text, and goes on with that text. -/
theorem captures_written (isName : IsName reference.name) (rest : Text) :
    captures (reference.before ++ openingBrace :: openingBrace ::
      (reference.inside ++ closingBrace :: closingBrace :: rest)) =
        reference.inside :: captures rest := by
  have unclosed :
      closingBrace ∉ reference.before ++ openingBrace :: openingBrace :: reference.inside := by
    intro member
    rcases List.mem_append.mp member with before | member
    · exact (reference.plain _ before).2 rfl
    · have inside : closingBrace ∈ reference.inside := by
        simpa [openingBrace, closingBrace] using member
      exact unclosed_inside isName inside
  have opened := opened?_eq_some.mpr
    ⟨opens_plain reference.plain reference.inside, inside_ne_nil isName⟩
  have scanned := captures_segment unclosed (closingBrace :: rest)
  rw [List.head?_cons, if_pos rfl, opened, captures_closingBrace, List.append_assoc] at scanned
  exact scanned

end Written

/-- A text with references names what was written, in the same order. -/
theorem names_render (named : ∀ reference ∈ references, IsName reference.name)
    (plain : Plain behind) : names (render references behind) = references.map Written.name := by
  induction references with
  | nil =>
    have unclosed : closingBrace ∉ behind := fun member => (plain _ member).2 rfl
    rw [render, names, captures_of_unclosed unclosed]
    rfl
  | cons first others ih =>
    obtain ⟨isName, later⟩ := List.forall_mem_cons.mp named
    have first? : trim first.inside = first.name := first.trim_inside.trans isName.trimmed
    rw [render, names, Written.captures_written isName, List.map_cons, first?,
      List.filter_cons_of_pos (by simpa using isName.nonempty), List.map_cons]
    exact congrArg (first.name :: ·) (ih later)

/-- Whatever a text names can be written. -/
theorem isName_of_mem_names (member : name ∈ names s) : IsName name := by
  rw [names, List.mem_filter, List.mem_map] at member
  obtain ⟨⟨capture, captured, rfl⟩, nonempty⟩ := member
  obtain ⟨segment, closed, opens, _⟩ := mem_captures.mp captured
  obtain ⟨before, after, split, tight, _⟩ := trim_split capture
  refine ⟨by simpa using nonempty, trim_of_tight tight, fun inside => ?_⟩
  obtain ⟨front, rfl, _⟩ := opens
  apply closed.unclosed
  rw [split]
  simp [inside]

theorem namesInTag_of_hasText {tag : Value} {text : Text} (has : HasText tag text) :
    namesInTag tag = names text := by
  obtain ⟨fields, parameter, rfl, parameters, value, list, map⟩ := has
  rw [namesInTag, parameters]
  simp [namesInParameter, valueKeys, value, list, map, namesIn]

end Reading

section Tags

variable {references : List Written} {behind : Text}

theorem mem_variablesOf_of_hasText {tag : Value} {text name : Text} (has : HasText tag text) :
    name ∈ variablesOf tag ↔ name ∈ names text := by
  rw [variablesOf, mem_distinct, namesInTag_of_hasText has]

/-- Every variable of a tag stands in a text. -/
theorem isName_of_mem_variablesOf {tag : Value} {name : Text} (member : name ∈ variablesOf tag) :
    IsName name := by
  rw [variablesOf, mem_distinct] at member
  obtain ⟨_, _, _, _, _, _, _, _, _, s, _, refers⟩ := mem_namesInTag_iff.mp member
  exact isName_of_mem_names refers

/-- A tag that is written from names refers to these names and no others. Every variable of any tag
can be written in this way, so a tag that is written from the variables of another one, in any order
and any number of times, has the same variables. -/
theorem variables_rendered :
    (∀ tag references behind, (∀ reference ∈ references, IsName reference.name) → Plain behind →
      HasText tag (render references behind) →
        ∀ name, name ∈ variablesOf tag ↔ name ∈ references.map Written.name) ∧
      (∀ tag name, name ∈ variablesOf tag → IsName name) ∧
      ∀ tag again references behind,
        (∀ name, name ∈ references.map Written.name ↔ name ∈ variablesOf tag) → Plain behind →
          HasText again (render references behind) → variablesOf again = variablesOf tag := by
  refine ⟨fun tag references behind named plain has name => ?_,
    fun tag name => isName_of_mem_variablesOf, fun tag again references behind same plain has => ?_⟩
  · rw [mem_variablesOf_of_hasText has, names_render named plain]
  · have named : ∀ reference ∈ references, IsName reference.name := by
      intro reference member
      have own : reference.name ∈ variablesOf tag := (same _).mp (List.mem_map_of_mem member)
      exact isName_of_mem_variablesOf own
    apply distinct_congr
    intro name
    rw [namesInTag_of_hasText has, names_render named plain, same, variablesOf, mem_distinct]

/-- A text with two names, one of which begins with a brace, and the same names written the other
way round. -/
theorem variables_rendered_swapped :
    let parameter (text : Text) : Fields := [("key", .string "html"), ("value", .string text)]
    let tag (text : Text) : Value := .object [("parameter", .array [.object (parameter text)])]
    let first : Written :=
      ⟨"Sum: ", " ", "Order Value", [], by decide +kernel, by decide +kernel, nofun⟩
    let second : Written :=
      ⟨" of ", [], "\x7bTotal", "  ", by decide +kernel, nofun, by decide +kernel⟩
    let text : Text := "Sum: \x7b\x7b Order Value\x7d\x7d of \x7b\x7b\x7bTotal  \x7d\x7d."
    let again : Text := " of \x7b\x7b\x7bTotal  \x7d\x7dSum: \x7b\x7b Order Value\x7d\x7d"
    HasText (tag text) (render [first, second] ".") ∧ Plain "." ∧
      (∀ reference ∈ [first, second], IsName reference.name) ∧
      HasText (tag again) (render [second, first] []) ∧
      (∀ name, name ∈ variablesOf (tag text) ↔
        name ∈ ([Text.ofString "Order Value", Text.ofString "\x7bTotal"] : List Text)) ∧
      variablesOf (tag again) = variablesOf (tag text) := by
  intro parameter tag first second text again
  obtain ⟨rendered, _, rerendered⟩ := variables_rendered
  have has : HasText (tag text) (render [first, second] ".") :=
    ⟨_, parameter text, rfl, rfl, rfl, rfl, rfl⟩
  have hasAgain : HasText (tag again) (render [second, first] []) :=
    ⟨_, parameter again, rfl, rfl, rfl, rfl, rfl⟩
  have plain : Plain "." := by decide +kernel
  have named : ∀ reference ∈ [first, second], IsName reference.name := by
    refine List.forall_mem_cons.mpr ⟨?_, List.forall_mem_singleton.mpr ?_⟩
    · exact ⟨by decide +kernel, by decide +kernel, by decide +kernel⟩
    · exact ⟨by decide +kernel, by decide +kernel, by decide +kernel⟩
  have exact := rendered (tag text) _ _ named plain has
  refine ⟨has, plain, named, hasAgain, exact, ?_⟩
  apply rerendered (tag text) (tag again) [second, first] [] _ (by decide) hasAgain
  intro name
  rw [exact]
  simp only [List.map_cons, List.map_nil, List.mem_cons, List.not_mem_nil, or_false]
  exact or_comm

end Tags

end ConversionRelay.Reference
