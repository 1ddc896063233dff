import ConversionRelay.FileTree
import ConversionRelay.Proofs.Text.Encoding
/-!
What is read of a file after it was written.

Writing replaces what stands under one name of one directory, and rebuilds the directories above it.
Every directory that could be reached before is reached by the same names afterwards, so a path that
led to the file leads there still, double dots on the way included: it passes the same names from
the same anchors.

Main statements: a file holds what was written to it last (`FileTree.read_write`), and a text that
can be encoded is written to every file that can be written (`FileTree.writeText_of_writable`).
-/
namespace ConversionRelay

open OrderedMap

namespace Folder

/-- The directory that stands under a name. -/
def directoryAt? (folder : Folder) (name : Text) : Option Folder :=
  match lookup? folder name with
  | some (.directory entries) => some entries
  | _ => none

theorem directoryAt?_eq_some {folder entries : Folder} {name : Text} :
    directoryAt? folder name = some entries ↔ lookup? folder name = some (.directory entries) := by
  unfold directoryAt?
  split <;> simp_all

theorem directoryAt?_put_directory (folder : Folder) (name : Text) (entries : Folder) :
    directoryAt? (put folder name (.directory entries)) name = some entries := by
  rw [directoryAt?, lookup?_put_self]

theorem directoryAt?_put_of_ne {name other : Text} (ne : name ≠ other) (folder : Folder)
    (entry : FileEntry) :
    directoryAt? (put folder name entry) other = directoryAt? folder other := by
  rw [directoryAt?, directoryAt?, lookup?_put_of_ne _ _ ne]

/-- The directory that some names lead to, the outermost one first. -/
def descend : Folder → List Text → Option Folder
  | folder, [] => some folder
  | folder, name :: names => (directoryAt? folder name).bind fun entries => descend entries names

/-- Every directory that names lead to in one folder, they lead to in another. -/
def Keeps (before after : Folder) : Prop :=
  ∀ names found, descend before names = some found → ∃ kept, descend after names = some kept

/-- A trail leads from a folder to another one. -/
inductive Leads (root : Folder) : List (Text × Folder) → Folder → Prop
  | here : Leads root [] root
  | inside {trail : List (Text × Folder)} {around entries : Folder} {name : Text}
      (leads : Leads root trail around) (stands : directoryAt? around name = some entries) :
      Leads root ((name, around) :: trail) entries

theorem descend_concat (folder : Folder) (names : List Text) (name : Text) :
    descend folder (names ++ [name]) =
      (descend folder names).bind fun around => directoryAt? around name := by
  induction names generalizing folder with
  | nil =>
    simp only [List.nil_append, descend, Option.bind_some]
    cases directoryAt? folder name <;> rfl
  | cons first names ih =>
    rw [List.cons_append, descend, descend]
    cases directoryAt? folder first with
    | none => rfl
    | some entries => exact ih entries

theorem Leads.around {root entries : Folder} {step : Text × Folder} {trail : List (Text × Folder)}
    (leads : Leads root (step :: trail) entries) : Leads root trail step.2 := by
  cases leads with
  | inside leads stands => exact leads

theorem Keeps.refl (folder : Folder) : Keeps folder folder := fun _ found is => ⟨found, is⟩

/-- Putting a file where no directory stands keeps every directory. -/
theorem keeps_put_file {folder : Folder} {name : Text}
    (noDirectory : directoryAt? folder name = none)
    (bytes : List UInt8) : Keeps folder (put folder name (.file bytes)) := by
  intro names found is
  cases names with
  | nil => exact ⟨_, rfl⟩
  | cons first names =>
    have other : name ≠ first := by
      rintro rfl
      rw [descend, noDirectory] at is
      cases is
    refine ⟨found, ?_⟩
    rw [descend, directoryAt?_put_of_ne other]
    exact is

/-- Replacing a directory by one that keeps its directories keeps every directory. -/
theorem keeps_put_directory {folder entries new : Folder} {name : Text}
    (stands : directoryAt? folder name = some entries) (keeps : Keeps entries new) :
    Keeps folder (put folder name (.directory new)) := by
  intro names found is
  cases names with
  | nil => exact ⟨_, rfl⟩
  | cons first names =>
    by_cases same : name = first
    · subst same
      rw [descend, stands] at is
      obtain ⟨kept, leads⟩ := keeps names found is
      refine ⟨kept, ?_⟩
      rw [descend, directoryAt?_put_directory]
      exact leads
    · refine ⟨found, ?_⟩
      rw [descend, directoryAt?_put_of_ne same]
      exact is

/-- The names of a trail, the outermost one first. -/
def namesOf (trail : List (Text × Folder)) : List Text := (trail.map Prod.fst).reverse

theorem namesOf_cons (step : Text × Folder) (trail : List (Text × Folder)) :
    namesOf (step :: trail) = namesOf trail ++ [step.1] := by
  rw [namesOf, List.map_cons, List.reverse_cons]
  rfl

theorem descend_of_leads {root folder : Folder} {trail : List (Text × Folder)}
    (leads : Leads root trail folder) : descend root (namesOf trail) = some folder := by
  induction leads with
  | here => rfl
  | inside leads stands ih => rw [namesOf_cons, descend_concat, ih, Option.bind_some, stands]

/-- What stands around a replaced folder, with what stands around that replaced in turn. -/
def rebuild (trail : List (Text × Folder)) (new : Folder) : Folder :=
  trail.foldl (fun folder step => put step.2 step.1 (.directory folder)) new

theorem keeps_rebuild {root folder new : Folder} {trail : List (Text × Folder)}
    (leads : Leads root trail folder) (keeps : Keeps folder new) :
    Keeps root (rebuild trail new) := by
  induction leads generalizing new with
  | here => exact keeps
  | inside leads stands ih => exact ih (keeps_put_directory stands keeps)

/-- The names that led to a replaced folder lead to what replaced it. -/
theorem leads_rebuild {root folder : Folder} {trail : List (Text × Folder)}
    (leads : Leads root trail folder) (new : Folder) :
    ∃ others, Leads (rebuild trail new) others new ∧ namesOf others = namesOf trail := by
  induction leads generalizing new with
  | here => exact ⟨[], .here, rfl⟩
  | @inside trail around entries name leads stands ih =>
    obtain ⟨others, leads, names⟩ := ih (put around name (.directory new))
    refine ⟨_, leads.inside (directoryAt?_put_directory around name new), ?_⟩
    rw [namesOf_cons, namesOf_cons, names]

end Folder

namespace FileTree

open Folder

section Places

/-- A place that exists in a tree. -/
def Holds (tree : FileTree) (place : Place) : Prop :=
  Leads (tree.folderAt place.anchor) place.trail place.folder

/-- Two places with one way to them. -/
def SameWay (place other : Place) : Prop :=
  place.anchor = other.anchor ∧ namesOf place.trail = namesOf other.trail

/-- Every directory of one tree is found in another, by the same names from the same anchor. -/
def KeepsAll (before after : FileTree) : Prop :=
  ∀ anchor, Keeps (before.folderAt anchor) (after.folderAt anchor)

theorem holds_anchored (tree : FileTree) (anchor : Anchor) :
    tree.Holds (tree.anchored anchor) := Leads.here

theorem holds_holder {tree : FileTree} {place : Place} (holds : tree.Holds place) :
    tree.Holds (tree.holder place) := by
  obtain ⟨anchor, folder, trail⟩ := place
  cases trail with
  | nil =>
    cases anchor with
    | top => exact holds
    | above levels => exact Leads.here
  | cons step trail => exact holds.around

theorem sameWay_holder {before after : FileTree} {place other : Place}
    (way : SameWay place other) : SameWay (before.holder place) (after.holder other) := by
  obtain ⟨anchor, folder, trail⟩ := place
  obtain ⟨anchor', folder', trail'⟩ := other
  obtain ⟨rfl, names⟩ := way
  cases trail with
  | nil =>
    cases trail' with
    | nil => cases anchor <;> exact ⟨rfl, rfl⟩
    | cons step' trail' => simp [namesOf] at names
  | cons step trail =>
    cases trail' with
    | nil => simp [namesOf] at names
    | cons step' trail' =>
      rw [namesOf_cons, namesOf_cons] at names
      exact ⟨rfl, (List.append_inj' names rfl).1⟩

end Places

section Levels

theorem getD_setLevel (level other : Nat) (folders : List Folder) (new : Folder) :
    (setLevel level folders new).getD other [] =
      if other = level then new else folders.getD other [] := by
  induction level generalizing other folders with
  | zero =>
    cases other with
    | zero => rfl
    | succ other => cases folders <;> rfl
  | succ level ih =>
    rw [setLevel]
    cases other with
    | zero => cases folders <;> rfl
    | succ other =>
      rw [List.getD_cons_succ, ih]
      cases folders <;> simp

/-- In the tree after a replacement, the anchor of the place is rebuilt and every other is as it
was. -/
theorem folderAt_replace (tree : FileTree) (place : Place) (new : Folder) (anchor : Anchor) :
    (tree.replace place new).folderAt anchor =
      if anchor = place.anchor then rebuild place.trail new else tree.folderAt anchor := by
  obtain ⟨own, folder, trail⟩ := place
  cases own with
  | top => cases anchor <;> rfl
  | above level =>
    cases anchor with
    | top => rfl
    | above other =>
      have same : (Anchor.above other = .above level) = (other = level) := by simp
      simp only [same]
      exact getD_setLevel level other tree.levels (rebuild trail new)

theorem keepsAll_replace {tree : FileTree} {place : Place} (holds : tree.Holds place)
    {new : Folder} (keeps : Keeps place.folder new) : KeepsAll tree (tree.replace place new) := by
  intro anchor
  rw [folderAt_replace]
  split
  · rename_i same
    subst same
    exact keeps_rebuild holds keeps
  · exact .refl _

/-- After a replacement, the way to the place leads to what was put there. -/
theorem folder_of_sameWay_replace {tree : FileTree} {place : Place} (holds : tree.Holds place)
    {new : Folder} {other : Place} (stands : (tree.replace place new).Holds other)
    (way : SameWay place other) : other.folder = new := by
  obtain ⟨others, leads, names⟩ := leads_rebuild holds new
  have there := descend_of_leads leads
  have here := descend_of_leads stands
  rw [folderAt_replace, if_pos way.1.symm, ← way.2, ← names, there] at here
  exact (Option.some.inj here).symm

end Levels

section Ways

variable {before after : FileTree} {place other next last : Place} {segment name : Text}
  {segments : List Text} {old : Option (List UInt8)}

/-- From a directory a segment leads back, to a directory that stands there, or to a name. -/
theorem advance_cases {spot : Spot}
    (advances : advance before (.directory place) segment = .ok spot) :
    ¬FilePath.longestSegment < FilePath.byteSize segment ∧
      (segment = ".." ∧ spot = .directory (before.holder place) ∨
        segment ≠ ".." ∧ ((∃ entries, directoryAt? place.folder segment = some entries ∧
            spot = .directory ⟨place.anchor, entries, (segment, place.folder) :: place.trail⟩) ∨
          directoryAt? place.folder segment = none ∧
            ∃ bytes, spot = .name place segment bytes)) := by
  unfold advance at advances
  dsimp only at advances
  split at advances
  · cases advances
  rename_i short
  refine ⟨short, ?_⟩
  split at advances
  · rename_i back
    cases advances
    exact .inl ⟨back, rfl⟩
  rename_i noBack
  right
  refine ⟨noBack, ?_⟩
  split at advances
  · rename_i entries stands
    cases advances
    exact .inl ⟨entries, by rw [directoryAt?, stands], rfl⟩
  · rename_i stands
    cases advances
    exact .inr ⟨by rw [directoryAt?, stands], _, rfl⟩
  · rename_i nothing
    cases advances
    exact .inr ⟨by rw [directoryAt?, nothing], _, rfl⟩

/-- Where directories are kept, the same way leads on to a directory. -/
theorem advance_directory (keeps : KeepsAll before after) (holds : before.Holds place)
    (holds' : after.Holds other) (way : SameWay place other)
    (advances : advance before (.directory place) segment = .ok (.directory next)) :
    ∃ next', advance after (.directory other) segment = .ok (.directory next') ∧
      before.Holds next ∧ after.Holds next' ∧ SameWay next next' := by
  obtain ⟨short, ⟨back, is⟩ | ⟨noBack, ⟨entries, stands, is⟩ | ⟨_, bytes, is⟩⟩⟩ :=
    advance_cases advances
  · cases is
    refine ⟨after.holder other, ?_, holds_holder holds, holds_holder holds', sameWay_holder way⟩
    rw [advance, if_neg short, if_pos back]
  · cases is
    have inner := holds.inside stands
    -- The names of the new trail lead somewhere in the other tree: through the twin of the place.
    obtain ⟨kept, leads⟩ := keeps place.anchor _ _ (descend_of_leads inner)
    rw [namesOf_cons, way.1, way.2, descend_concat, descend_of_leads holds',
      Option.bind_some] at leads
    refine ⟨⟨other.anchor, kept, (segment, other.folder) :: other.trail⟩, ?_, inner,
      holds'.inside leads, way.1, ?_⟩
    · rw [advance, if_neg short, if_neg noBack, directoryAt?_eq_some.mp leads]
    · rw [namesOf_cons, namesOf_cons, way.2]
  · cases is

/-- Where directories are kept, a way that leads to a name leads to the same name. -/
theorem foldlM_name (keeps : KeepsAll before after) (holds : before.Holds place)
    (holds' : after.Holds other) (way : SameWay place other)
    (leads : segments.foldlM (advance before) (.directory place) = .ok (.name last name old)) :
    before.Holds last ∧ advance before (.directory last) name = .ok (.name last name old) ∧
      ∃ last', after.Holds last' ∧ SameWay last last' ∧
        segments.foldlM (advance after) (.directory other) =
          advance after (.directory last') name := by
  induction segments generalizing place other with
  | nil => cases leads
  | cons segment segments ih =>
    rw [List.foldlM_cons] at leads
    cases advances : advance before (.directory place) segment with
    | error obstacle =>
      rw [advances] at leads
      cases leads
    | ok spot =>
      rw [advances] at leads
      cases spot with
      | directory next =>
        obtain ⟨next', advances', holdsNext, holdsNext', wayNext⟩ :=
          advance_directory keeps holds holds' way advances
        rw [List.foldlM_cons, advances']
        exact ih holdsNext holdsNext' wayNext leads
      | name there found bytes =>
        cases segments with
        | cons further segments => cases bytes <;> cases leads
        | nil =>
          cases leads
          obtain ⟨_, ⟨_, is⟩ | ⟨_, ⟨_, _, is⟩ | ⟨_, _, is⟩⟩⟩ := advance_cases advances
          · cases is
          · cases is
          · cases is
            refine ⟨holds, advances, other, holds', way, ?_⟩
            rw [List.foldlM_cons]
            cases advance after (.directory other) name <;> rfl

/-- A path that leads to a name leads to that name after something was put there. -/
theorem locate_name (keeps : KeepsAll before after) {path : FilePath}
    (leads : locate path before = .ok (.name last name old)) :
    before.Holds last ∧ advance before (.directory last) name = .ok (.name last name old) ∧
      ∃ last', after.Holds last' ∧ SameWay last last' ∧
        locate path after = advance after (.directory last') name := by
  unfold locate at leads ⊢
  split at leads
  · cases leads
  · exact foldlM_name keeps (holds_anchored before _) (holds_anchored after _) ⟨rfl, rfl⟩ leads

theorem keepsAll_refl (tree : FileTree) : KeepsAll tree tree := fun _ => .refl _

/-- A file holds what was written to it last, whatever way its path takes. -/
theorem read_write {path : FilePath} {bytes : List UInt8}
    (writes : write path bytes before = .ok after) : read path after = .ok bytes := by
  unfold write at writes
  split at writes
  · cases writes
  · cases writes
  rename_i last name old leads
  cases writes
  obtain ⟨holds, advances, _⟩ := locate_name (keepsAll_refl before) leads
  obtain ⟨short, ⟨_, is⟩ | ⟨noBack, ⟨_, _, is⟩ | ⟨noDirectory, _, _⟩⟩⟩ := advance_cases advances
  · cases is
  · cases is
  have keeps := keepsAll_replace holds (keeps_put_file noDirectory bytes)
  obtain ⟨_, _, other, holds', way, leads'⟩ := locate_name keeps leads
  have folder := folder_of_sameWay_replace holds holds' way
  have found : locate path (before.replace last (put last.folder name (.file bytes))) =
      .ok (.name other name (some bytes)) := by
    rw [leads', advance, if_neg short, if_neg noBack, folder, lookup?_put_self]
  rw [read, find, found]

/-- A file can be written: the directories above it exist or can be made, and none stands in its
place. -/
def Writable (path : FilePath) (tree : FileTree) : Prop :=
  ∃ made, makeDirectories deepestGap path.parent tree = .ok made ∧
    ∃ place name old, locate path made = .ok (.name place name old)

/-- Whatever can be encoded is written to a file that can be written. -/
theorem writeText_of_writable {path : FilePath} (writable : Writable path before) {text : Text}
    {bytes : List UInt8} (encodes : Text.encodeUtf8 text = .ok bytes) :
    ∃ after, writeText path text before = .ok after := by
  obtain ⟨made, makes, place, name, old, leads⟩ := writable
  refine ⟨made.replace place (put place.folder name (.file bytes)), ?_⟩
  rw [writeText, makes, Except.bind, encodes]
  dsimp only
  rw [write, leads]

/-- A text that was written to a file is read from it with plain line breaks. -/
theorem readText_writeText {path : FilePath} {text : Text}
    (writes : writeText path text before = .ok after) :
    readText path after = .ok (Text.plainLineBreaks text) := by
  unfold writeText at writes
  cases makes : makeDirectories deepestGap path.parent before with
  | error fault =>
    rw [makes] at writes
    cases writes
  | ok made =>
    rw [makes] at writes
    dsimp only [Except.bind] at writes
    split at writes
    · rename_i bytes encodes
      rw [readText, read_write writes, Except.bind, Text.decodeUtf8_of_encodeUtf8 encodes]
    · cases writes

end Ways

end FileTree

end ConversionRelay
