import ConversionRelay.Proofs.Container.NamePath
import ConversionRelay.Proofs.Container.Reference
import ConversionRelay.Proofs.DataLayer.Addresses
/-!
Names in camel case, and the paths they suggest.

A name in camel case is a word of small letters with humps behind it, each of them a capital with
small letters or none. Its path has a segment for each word. Nothing is lost on the way: a path with
capitals put at the segments behind the first is the name again, whether a hump is long or a single
letter among others. In a data layer the path leads along the words.

Main statements: the third rule applies to names in camel case alone
(`NamePath.exists_camelName`), and their paths tell their words, from which the name can be told
(`NamePath.camelCase_invertible`).
-/
namespace ConversionRelay

/-- A code point with a lower-case letter of ASCII made a capital. -/
def CodePoint.plainUpper : CodePoint → CodePoint
  | char c => char c.toUpper
  | surrogate half => surrogate half

namespace NamePath

open Text

/-- A text with its first letter made a capital. -/
def capitalise : Text → Text
  | [] => []
  | c :: rest => c.plainUpper :: rest

/-- A path written as one name: its segments with nothing between them, and with a capital each
behind the first. -/
def rejoined (path : Text) : Text :=
  match cut '.' path with
  | [] => []
  | first :: others => first ++ others.flatMap capitalise

/-- A word behind the first one of a name in camel case: a capital, and small letters or none. -/
structure Hump where
  capital : CodePoint
  tail : Text
  isUpper : capital.isUpper = true
  isLower : ∀ c ∈ tail, c.isLower = true

/-- The word that a hump is. -/
def Hump.word (hump : Hump) : Text := hump.capital :: hump.tail

/-- A name in camel case. -/
structure CamelName where
  first : Text
  humps : List Hump
  first_ne_nil : first ≠ []
  humps_ne_nil : humps ≠ []
  isLower : ∀ c ∈ first, c.isLower = true

namespace CamelName

/-- The words of a name. -/
def words (name : CamelName) : List Text := name.first :: name.humps.map Hump.word

/-- A name as it is written. -/
def text (name : CamelName) : Text := name.words.flatten

/-- The words of a name in lower case. -/
def segments (name : CamelName) : List Text := name.words.map lower

/-- The path that a name suggests. -/
def path (name : CamelName) : Text := join [CodePoint.char '.'] name.segments

end CamelName

/-- A value inside objects that bind one key each. -/
def nested : List Text → Value → Value
  | [], v => v
  | key :: others, v => .object [(key, nested others v)]

section Letters

variable {c : CodePoint}

/-- A capital is lower-cased to a small letter, and that is the small letter of no other capital. -/
theorem lowerSingle_of_isUpper (capital : c.isUpper = true) :
    (lowerSingle c).isLower = true ∧ (lowerSingle c).plainUpper = c := by
  have each : ∀ n < 0x5b, 0x41 ≤ n → (lowerSingle (.ofCode n)).isLower = true ∧
      (lowerSingle (.ofCode n)).plainUpper = .ofCode n := by decide
  obtain ⟨from_, upTo⟩ := code_of_isUpper capital
  simpa using each c.code (by omega) from_

/-- Letters of ASCII are lower-cased one by one. -/
theorem ordinary_of_isLetter (letter : c.isLetter = true) :
    c.code ≠ 0x3a3 ∧ c.code ≠ 0x130 := by
  have range := code_of_isLetter letter
  omega

end Letters

section Words

variable {s : Text}

theorem lower_of_isLower (small : ∀ c ∈ s, c.isLower = true) : lower s = s :=
  lowerAfter_of_settled (fun c member => settled_of_isLower (small c member)) []

/-- There is nothing to put a dot in front of in a word of small letters. -/
theorem dotCapitals_of_isLower (small : ∀ c ∈ s, c.isLower = true) : dotCapitals s = s := by
  induction s with
  | nil => rfl
  | cons c rest ih =>
    obtain ⟨own, others⟩ := List.forall_mem_cons.mp small
    have kept := ih others
    simp only [dotCapitals] at kept ⊢
    simp [isUpper_of_isLower own, kept]

namespace Hump

variable (hump : Hump)

theorem letters : ∀ c ∈ hump.word, c.isLetter = true :=
  List.forall_mem_cons.mpr ⟨isLetter_of_isUpper hump.isUpper,
    fun c member => isLetter_of_isLower (hump.isLower c member)⟩

theorem dotCapitals_word : dotCapitals hump.word = [CodePoint.char '.'] ++ hump.word := by
  have tail := dotCapitals_of_isLower hump.isLower
  simp only [dotCapitals] at tail
  simp [word, dotCapitals, hump.isUpper, tail]

theorem lower_word : lower hump.word = lowerSingle hump.capital :: hump.tail := by
  have tail := lower_of_isLower hump.isLower
  have ordinary : ∀ c ∈ hump.word, c.code ≠ 0x3a3 ∧ c.code ≠ 0x130 := fun c member =>
    ordinary_of_isLetter (hump.letters c member)
  rw [lower, lowerAfter_of_ordinary (List.forall_mem_cons.mp ordinary).2] at tail
  rw [lower, lowerAfter_of_ordinary ordinary, word, List.map_cons, tail]

/-- A hump is told from the segment that it becomes. -/
theorem capitalise_lower_word : capitalise (lower hump.word) = hump.word := by
  rw [lower_word, capitalise, (lowerSingle_of_isUpper hump.isUpper).2, word]

/-- Lower-casing does not leave a capital alone. -/
theorem not_settled : ¬Settled hump.capital.code := by
  intro settled
  have small := (lowerSingle_of_isUpper hump.isUpper).1
  rw [lowerSingle_of_settled settled] at small
  cases hump.isUpper.symm.trans (isUpper_of_isLower small)

end Hump

namespace CamelName

variable (name : CamelName)

theorem text_eq : name.text = name.first ++ name.humps.flatMap Hump.word := by
  simp [text, words, List.flatMap]

theorem letters : ∀ c ∈ name.text, c.isLetter = true := by
  intro c member
  rw [text_eq, List.mem_append, List.mem_flatMap] at member
  obtain small | ⟨hump, _, member⟩ := member
  · exact isLetter_of_isLower (name.isLower c small)
  · exact hump.letters c member

/-- With a dot in front of each capital, the words are cut off from each other. -/
theorem dotCapitals_text : dotCapitals name.text = join [CodePoint.char '.'] name.words := by
  have humps : dotCapitals (name.humps.flatMap Hump.word) =
      name.humps.flatMap fun hump => [CodePoint.char '.'] ++ hump.word := by
    rw [dotCapitals, List.flatMap_assoc]
    exact congrArg (name.humps.flatMap ·) (funext Hump.dotCapitals_word)
  rw [text_eq, dotCapitals, List.flatMap_append, ← dotCapitals, ← dotCapitals, humps,
    dotCapitals_of_isLower name.isLower, words, join_cons, List.flatMap_map]

theorem letters_of_mem_words {word : Text} (member : word ∈ name.words) :
    ∀ c ∈ word, c.isLetter = true := fun c among =>
  name.letters c (List.mem_flatten_of_mem member among)

theorem lower_dotCapitals_text : lower (dotCapitals name.text) = name.path := by
  have ordinary : ∀ c ∈ dotCapitals name.text, c.code ≠ 0x3a3 ∧ c.code ≠ 0x130 := by
    intro c member
    obtain rfl | among := mem_dotCapitals member
    · decide
    · exact ordinary_of_isLetter (name.letters c among)
  have words : name.words.map (List.map lowerSingle) = name.segments := by
    apply List.map_congr_left
    intro word member
    exact (lowerAfter_of_ordinary (fun c among =>
      ordinary_of_isLetter (name.letters_of_mem_words member c among)) []).symm
  have dot : lowerSingle (CodePoint.char '.') = CodePoint.char '.' :=
    lowerSingle_of_settled (by decide)
  rw [lower, lowerAfter_of_ordinary ordinary, dotCapitals_text, map_join, words, List.map_singleton,
    dot, path]

theorem segment_ne_nil {segment : Text} (member : segment ∈ name.segments) : segment ≠ [] := by
  obtain ⟨word, among, rfl⟩ := List.mem_map.mp member
  intro empty
  obtain rfl | among := List.mem_cons.mp among
  · exact name.first_ne_nil (lower_eq_nil.mp empty)
  · obtain ⟨hump, _, rfl⟩ := List.mem_map.mp among
    cases lower_eq_nil.mp empty

/-- The path falls into its segments again. -/
theorem cut_path : cut '.' name.path = name.segments := by
  have some : name.segments ≠ [] := List.cons_ne_nil _ _
  apply cut_join some
  intro segment member dot
  obtain ⟨word, among, rfl⟩ := List.mem_map.mp member
  rw [lower, mem_lowerAfter_iff (by decide) (by decide)] at dot
  cases name.letters_of_mem_words among _ dot

theorem path_ne_nil : name.path ≠ [] := by
  intro empty
  have cuts := name.cut_path
  rw [empty] at cuts
  exact name.segment_ne_nil (cuts ▸ List.mem_singleton_self []) rfl

/-- Each hump has a dot in front of it. -/
theorem dot_mem_path : CodePoint.char '.' ∈ name.path := by
  obtain ⟨hump, others, humps⟩ := List.exists_cons_of_ne_nil name.humps_ne_nil
  rw [path, segments, words, List.map_cons, join_cons, humps]
  simp

theorem rejoined_path : rejoined name.path = name.text := by
  have humps : (name.humps.map Hump.word).map lower = name.humps.map fun hump => lower hump.word :=
    List.map_map
  have capitals : (name.humps.map fun hump => lower hump.word).flatMap capitalise =
      name.humps.flatMap Hump.word := by
    rw [List.flatMap_map]
    exact congrArg (name.humps.flatMap ·) (funext Hump.capitalise_lower_word)
  rw [rejoined, cut_path, segments, words, List.map_cons, lower_of_isLower name.isLower, humps]
  dsimp only
  rw [capitals, text_eq]

end CamelName

end Words

section Rule

/-- The third rule applies to names in camel case. -/
theorem CamelName.isCamelCase_text (name : CamelName) : isCamelCase name.text = true := by
  obtain ⟨c, rest, first⟩ := List.exists_cons_of_ne_nil name.first_ne_nil
  obtain ⟨hump, others, humps⟩ := List.exists_cons_of_ne_nil name.humps_ne_nil
  have capital : hump.capital ∈ name.text := by simp [text_eq, humps, Hump.word]
  have changes : lower name.text ≠ name.text := by
    intro same
    rw [← same] at capital
    exact hump.not_settled (settled_of_mem_lowerAfter capital)
  have unbroken : name.text.getLast? ≠ some (CodePoint.char '\n') := fun ended => by
    cases name.letters _ (List.mem_of_getLast? ended)
  have shape : isCamelShape name.text = true := by
    have letters := name.letters
    rw [text_eq, first, List.cons_append] at letters unbroken ⊢
    rw [isCamelShape_cons unbroken, Bool.and_eq_true_iff, List.all_eq_true]
    exact ⟨name.isLower c (by simp [first]), (List.forall_mem_cons.mp letters).2⟩
  simp [isCamelCase, shape, changes]

/-- Letters are small ones, and humps behind them. -/
theorem exists_humps {s : Text} (letters : ∀ c ∈ s, c.isLetter = true) :
    ∃ (small : Text) (humps : List Hump), s = small ++ humps.flatMap Hump.word ∧
      ∀ c ∈ small, c.isLower = true := by
  induction s with
  | nil => exact ⟨[], [], rfl, List.forall_mem_nil _⟩
  | cons c rest ih =>
    obtain ⟨own, others⟩ := List.forall_mem_cons.mp letters
    obtain ⟨small, humps, rfl, isLower⟩ := ih others
    rw [isLetter_eq, Bool.or_eq_true] at own
    obtain capital | isSmall := own
    · exact ⟨[], ⟨c, small, capital, isLower⟩ :: humps, rfl, List.forall_mem_nil _⟩
    · exact ⟨c :: small, humps, rfl, List.forall_mem_cons.mpr ⟨isSmall, isLower⟩⟩

/-- The third rule applies to no trimmed name but one in camel case. -/
theorem exists_camelName {name : Text} (tight : Tight name) (camel : isCamelCase name = true) :
    ∃ camelName : CamelName, camelName.text = name := by
  obtain ⟨c, rest, rfl, first, letters⟩ := letters_of_isCamelCase tight camel
  obtain ⟨small, humps, rfl, isLower⟩ := exists_humps letters
  have word : ∀ d ∈ c :: small, d.isLower = true := List.forall_mem_cons.mpr ⟨first, isLower⟩
  have some : humps ≠ [] := by
    rintro rfl
    have same := lower_of_isLower word
    simp [isCamelCase, same] at camel
  exact ⟨⟨c :: small, humps, List.cons_ne_nil c small, some, word⟩, CamelName.text_eq _⟩

theorem CamelName.ofCamelCase_text (name : CamelName) : ofCamelCase name.text = name.path := by
  obtain ⟨c, rest, first⟩ := List.exists_cons_of_ne_nil name.first_ne_nil
  have small : c.isLower = true := name.isLower c (by simp [first])
  have opened : ofCamelCase name.text = lower (dotCapitals name.text) := by
    rw [text_eq, first, List.cons_append, ofCamelCase_eq small]
    simp [dotCapitals, isUpper_of_isLower small]
  rw [opened, lower_dotCapitals_text]

theorem CamelName.unblank (name : CamelName) : Unblank name.text := fun c member =>
  isBlank_of_isLetter (name.letters c member)

/-- What a name in camel case suggests. -/
theorem CamelName.ofName?_text (name : CamelName) : ofName? name.text = some name.path := by
  have undotted : CodePoint.char '.' ∉ name.text := fun dot => by cases name.letters _ dot
  rw [ofName?, trim_of_tight name.unblank.tight,
    ofTrimmed?_eq_some.mpr (.camel undotted name.isCamelCase_text), name.ofCamelCase_text]

end Rule

section Reading

open DataLayer

/-- Along the keys of nested objects lies the value inside them. -/
theorem walk_nested (keys : List Text) (v : Value) : walk (nested keys v) keys = .ok v := by
  induction keys with
  | nil => rfl
  | cons key others ih =>
    have bound : Value.fieldOf [(key, nested others v)] key = nested others v := by
      simp [Value.fieldOf, OrderedMap.lookup?_cons]
    rw [nested, walk, List.foldlM_cons, step_object, bound]
    exact ih

end Reading

/-- The path of a name in camel case has its words as segments, in lower case, and none of them is
empty. With the capitals put back, the path is the name, so no other name in camel case has this
path. In objects inside each other that bind one word each, the path leads to the value inside,
whatever it is. -/
theorem camelCase_invertible (name : CamelName) :
    ofName? name.text = some name.path ∧
      Segmented name.path ∧
      rejoined name.path = name.text ∧
      (∀ other : CamelName, ofName? other.text = ofName? name.text → other.text = name.text) ∧
      ∀ v, DataLayer.read (nested name.segments v) (.string name.path) = .ok v := by
  refine ⟨name.ofName?_text, ?_, name.rejoined_path, ?_, fun v => ?_⟩
  · intro segment member
    rw [name.cut_path] at member
    exact name.segment_ne_nil member
  · intro other same
    rw [other.ofName?_text, name.ofName?_text, Option.some.injEq] at same
    rw [← other.rejoined_path, same, name.rejoined_path]
  · rw [DataLayer.read_path rfl name.path_ne_nil]
    exact (congrArg (DataLayer.walk _) name.cut_path).trans (walk_nested name.segments v)

/-- Single capitals are words of their own, and the value that lies along them is read, be it one
that does not count as present. -/
theorem camelCase_invertible_currency :
    let capital (c : Char) (isUpper : c.isUpper = true) : Hump :=
      ⟨c, [], isUpper, List.forall_mem_nil _⟩
    let name : CamelName := {
      first := "value"
      humps := [capital 'U' rfl, capital 'S' rfl, capital 'D' rfl]
      first_ne_nil := nofun
      humps_ne_nil := nofun
      isLower := by decide }
    name.text = "valueUSD" ∧ name.path = "value.u.s.d" ∧
      ofName? name.text = some name.path ∧ rejoined name.path = name.text ∧
      DataLayer.read (nested ["value", "u", "s", "d"] (.int 0)) (.string name.path) =
        .ok (.int 0) := by
  intro capital name
  have segments : name.segments = (["value", "u", "s", "d"] : List Text) := by decide
  obtain ⟨suggests, _, back, _, reads⟩ := camelCase_invertible name
  refine ⟨rfl, ?_, suggests, back, ?_⟩
  · rw [CamelName.path, segments]
    rfl
  · rw [← segments]
    exact reads (.int 0)

end NamePath

end ConversionRelay
