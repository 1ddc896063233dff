import ConversionRelay.Proofs.Container.CamelCase
/-!
Paths that suggest themselves.

What one rule gives is looked at by another when it is taken for a name in its turn. A path in camel
case has a dot and goes to the first rule; a path that begins like a known branch is passed on by the
first three rules, having no dot, no capital and no space. Both are left as they are, and so is a
path of the first rule itself. Of lower-casing, this takes no more than that it is done once and for
all, and that it neither makes nor loses dots and blanks.

Main statements: the paths that suggest themselves are those of two forms
(`NamePath.ofName?_eq_self_iff`), and every path that is suggested is one of them, while blanks
around a name suggest nothing else (`NamePath.suggested_again`).
-/
namespace ConversionRelay.NamePath

open Text

variable {name path : Text}

/-- A path that is left as it is when it is taken for a name. -/
inductive Lasting (path : Text) : Prop
  | dotted (dot : CodePoint.char '.' ∈ path) (unblank : Unblank path) (lowered : lower path = path)
  | branch (undotted : CodePoint.char '.' ∉ path) (unspaced : CodePoint.char ' ' ∉ path)
      (tight : Tight path) (lowered : lower path = path) (known : startsKnown path = true)

/-- Two rules leave alone what has the form of their results. -/
theorem ofName?_of_lasting (lasting : Lasting path) : ofName? path = some path := by
  cases lasting with
  | dotted dot unblank lowered =>
    have suggests : Suggests path (removeBlanks (lower path)) := .dotted dot
    rw [lowered, removeBlanks_of_unblank unblank] at suggests
    rw [ofName?, trim_of_tight unblank.tight]
    exact ofTrimmed?_eq_some.mpr suggests
  | branch undotted unspaced tight lowered known =>
    have flat : isCamelCase path = false := by simp [isCamelCase, lowered]
    have suggests : Suggests path (lower path) :=
      .branch undotted flat unspaced (lowered.symm ▸ known)
    rw [lowered] at suggests
    rw [ofName?, trim_of_tight tight]
    exact ofTrimmed?_eq_some.mpr suggests

/-- Whichever rule suggests a path, the path has one of the two forms. -/
theorem lasting_of_ofName? (suggests : ofName? name = some path) : Lasting path := by
  obtain ⟨_, _, _, tight, _⟩ := trim_split name
  cases ofTrimmed?_eq_some.mp suggests with
  | dotted dot =>
    refine .dotted ?_ (unblank_removeBlanks _) (forms_of_dotted dot).lowered
    rw [mem_removeBlanks_iff (by decide), lower, mem_lowerAfter_iff (by decide) (by decide)]
    exact dot
  | camel undotted camel =>
    have forms := forms_of_camel tight undotted camel
    obtain ⟨camelName, is⟩ := exists_camelName tight camel
    rw [← is, camelName.ofCamelCase_text] at forms ⊢
    exact .dotted camelName.dot_mem_path (forms.unblank.mpr (.inr (is ▸ camelName.unblank)))
      forms.lowered
  | branch undotted flat unspaced known =>
    have forms := forms_of_branch tight undotted unspaced known
    refine .branch ?_ forms.unspaced (tight_lower tight) forms.lowered known
    rwa [lower, mem_lowerAfter_iff (by decide) (by decide)]

theorem ofName?_eq_self_iff : ofName? path = some path ↔ Lasting path :=
  ⟨lasting_of_ofName?, ofName?_of_lasting⟩

/-- Blanks of any kind around a name do not matter for the path that it suggests. A path that is
suggested suggests itself. -/
theorem suggested_again (name : Text) :
    (∀ before after, (∀ c ∈ before, isBlank c = true) → (∀ c ∈ after, isBlank c = true) →
      ofName? (before ++ name ++ after) = ofName? name) ∧
    ∀ path, ofName? name = some path → ofName? path = some path := by
  constructor
  · intro before after opening closing
    rw [ofName?, ofName?, trim_between_blanks opening closing]
  · intro path suggests
    exact ofName?_of_lasting (lasting_of_ofName? suggests)

theorem suggested_again_total :
    let padded : Text := "\u00a0" ++ "ecommerceTotal" ++ "\n"
    ofName? padded = some (Text.ofString "ecommerce.total") ∧
      ofName? "ecommerce.total" = some (Text.ofString "ecommerce.total") := by
  intro padded
  obtain ⟨surrounded, again⟩ := suggested_again "ecommerceTotal"
  have suggests : ofName? "ecommerceTotal" = some (Text.ofString "ecommerce.total") := by
    decide +kernel
  refine ⟨(surrounded "\u00a0" "\n" ?_ ?_).trans suggests, again _ suggests⟩
  · decide
  · decide

end ConversionRelay.NamePath
