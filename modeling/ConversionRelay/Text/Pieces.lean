import ConversionRelay.Text.CodePoint
/-!
Texts as sequences of pieces: cutting at a separator and joining.

Main statement: cutting and joining undo each other (`join_cut`, and `cut_join` for pieces that do not
hold the separator), and cutting never yields nothing (`cut_ne_nil`).
-/
namespace ConversionRelay.Text

/-- The pieces of a text between the occurrences of a separator; one more than there are of it. -/
def cut (separator : CodePoint) : Text → List Text
  | [] => [[]]
  | c :: rest =>
    if c = separator then [] :: cut separator rest
    else
      match cut separator rest with
      | [] => [[c]]
      | piece :: pieces => (c :: piece) :: pieces

/-- Pieces with a separator between each two. -/
def join (separator : Text) : List Text → Text
  | [] => []
  | [piece] => piece
  | piece :: pieces => piece ++ separator ++ join separator pieces

/-- Whether a text begins with another. -/
def startsWith (s start : Text) : Bool := start.isPrefixOf s

/-- A number of blanks. -/
def spaces (count : Nat) : Text := List.replicate count ' '

/-- A text at the left of a field of the given width. -/
def padRight (width : Nat) (s : Text) : Text := s ++ spaces (width - s.length)

/-- A text at the right of a field of the given width. -/
def padLeft (width : Nat) (s : Text) : Text := spaces (width - s.length) ++ s

theorem cut_cons_self (separator : CodePoint) (rest : Text) :
    cut separator (separator :: rest) = [] :: cut separator rest := if_pos rfl

theorem cut_cons_of_ne {separator c : CodePoint} (other : c ≠ separator) {rest piece : Text}
    {pieces : List Text} (later : cut separator rest = piece :: pieces) :
    cut separator (c :: rest) = (c :: piece) :: pieces := by
  rw [cut, if_neg other, later]

theorem join_singleton (separator piece : Text) : join separator [piece] = piece := rfl

theorem join_cons_cons (separator piece next : Text) (others : List Text) :
    join separator (piece :: next :: others) =
      piece ++ separator ++ join separator (next :: others) := rfl

/-- There is always a piece. -/
theorem cut_ne_nil (separator : CodePoint) (s : Text) : cut separator s ≠ [] := by
  induction s with
  | nil => exact List.cons_ne_nil [] []
  | cons c rest ih =>
    by_cases same : c = separator
    · rw [same, cut_cons_self]
      exact List.cons_ne_nil _ _
    · obtain ⟨piece, pieces, is⟩ := List.exists_cons_of_ne_nil ih
      rw [cut_cons_of_ne same is]
      exact List.cons_ne_nil _ _

/-- Joining the pieces gives the text back. -/
theorem join_cut (separator : CodePoint) (s : Text) : join [separator] (cut separator s) = s := by
  induction s with
  | nil => rfl
  | cons c rest ih =>
    obtain ⟨piece, pieces, is⟩ := List.exists_cons_of_ne_nil (cut_ne_nil separator rest)
    rw [is] at ih
    by_cases same : c = separator
    · rw [same, cut_cons_self, is, join_cons_cons, ih]
      rfl
    · rw [cut_cons_of_ne same is]
      cases pieces with
      | nil => exact congrArg (c :: ·) ih
      | cons next others => exact congrArg (c :: ·) ih

/-- A text without the separator is its only piece. -/
theorem cut_of_not_mem {separator : CodePoint} {s : Text} (absent : separator ∉ s) :
    cut separator s = [s] := by
  induction s with
  | nil => rfl
  | cons c rest ih =>
    simp only [List.mem_cons, not_or] at absent
    exact cut_cons_of_ne (Ne.symm absent.1) (ih absent.2)

/-- Up to the first separator there is one piece, and behind it there are the others. -/
theorem cut_append {separator : CodePoint} {piece : Text} (absent : separator ∉ piece) (s : Text) :
    cut separator (piece ++ separator :: s) = piece :: cut separator s := by
  induction piece with
  | nil => exact if_pos rfl
  | cons c rest ih =>
    simp only [List.mem_cons, not_or] at absent
    exact cut_cons_of_ne (Ne.symm absent.1) (ih absent.2)

/-- What holds no separator belongs to the first piece of the text behind it. -/
theorem cut_append_of_not_mem {separator : CodePoint} {front : Text} (absent : separator ∉ front)
    (s : Text) : ∃ piece pieces, cut separator s = piece :: pieces ∧
      cut separator (front ++ s) = (front ++ piece) :: pieces := by
  induction front with
  | nil =>
    obtain ⟨piece, pieces, is⟩ := List.exists_cons_of_ne_nil (cut_ne_nil separator s)
    exact ⟨piece, pieces, is, is⟩
  | cons c rest ih =>
    simp only [List.mem_cons, not_or] at absent
    obtain ⟨piece, pieces, is, later⟩ := ih absent.2
    exact ⟨piece, pieces, is, cut_cons_of_ne (Ne.symm absent.1) later⟩

/-- Behind the first piece, each piece has a separator in front of it. -/
theorem join_cons (separator piece : Text) (others : List Text) :
    join separator (piece :: others) = piece ++ others.flatMap (separator ++ ·) := by
  induction others generalizing piece with
  | nil => simp [join_singleton]
  | cons next rest ih =>
    rw [join_cons_cons, ih, List.flatMap_cons, List.append_assoc, List.append_assoc]

theorem map_join (f : CodePoint → CodePoint) (separator : Text) (pieces : List Text) :
    (join separator pieces).map f = join (separator.map f) (pieces.map (List.map f)) := by
  cases pieces with
  | nil => rfl
  | cons piece others => simp [join_cons, List.map_flatMap, List.flatMap_map]

/-- Cutting gives the pieces back, unless one of them holds the separator. -/
theorem cut_join {separator : CodePoint} {pieces : List Text} (some : pieces ≠ [])
    (apart : ∀ piece ∈ pieces, separator ∉ piece) :
    cut separator (join [separator] pieces) = pieces := by
  induction pieces with
  | nil => exact absurd rfl some
  | cons piece others ih =>
    have own := apart piece List.mem_cons_self
    cases others with
    | nil => exact cut_of_not_mem own
    | cons next rest =>
      have later := ih (List.cons_ne_nil next rest) fun other member =>
        apart other (List.mem_cons_of_mem piece member)
      rw [join_cons_cons, List.append_assoc, List.singleton_append, cut_append own, later]

end ConversionRelay.Text
