import ConversionRelay.Text.Blank
import ConversionRelay.Text.CompositionTable
import ConversionRelay.Text.MarkTable
/-!
The composed form of a text.

A character and the marks after it are taken apart as far as they can be, the marks are put in the
order of their classes, and what can be composed again is composed. A mark can be composed with the
character it belongs to unless a mark of its own class or a higher one stands between them. The
tables know the characters that may stand in the name of a host.

Main statement: putting marks in order loses none of them (`length_ordered`).
-/
namespace ConversionRelay.Text

/-- The class of a mark; zero for any other character. -/
def combiningClass (c : CodePoint) : Nat :=
  match combiningClasses.find? fun range => range.1 ≤ c.code && c.code ≤ range.2.1 with
  | some range => range.2.2
  | none => 0

/-- The character that two characters compose. -/
def compose? (first second : CodePoint) : Option CodePoint :=
  (compositions.find? fun entry => entry.1 == first.code && entry.2.1 == second.code).map
    fun entry => .ofCode entry.2.2

/-- A character taken apart, within a number of steps. -/
def takenApart : (steps : Nat) → CodePoint → Text
  | 0, c => [c]
  | steps + 1, c =>
    match compositions.find? fun entry => entry.2.2 == c.code with
    | some (first, second, _) => takenApart steps (.ofCode first) ++ [.ofCode second]
    | none => [c]

/-- How often a character can be taken apart. -/
def deepestComposition : Nat := 3

/-- Put a character behind a text that is given backwards, but a mark before the marks of higher
classes at its end. -/
def insertMark (c : CodePoint) : Text → Text
  | [] => [c]
  | last :: before =>
    if combiningClass c ≠ 0 ∧ combiningClass c < combiningClass last then
      last :: insertMark c before
    else c :: last :: before

/-- A text with its marks in order. -/
def ordered (s : Text) : Text := (s.foldl (fun before c => insertMark c before) []).reverse

/-- What has been composed: the text that is finished, the character that marks belong to, and its
marks that could not be composed. Both texts are given backwards. -/
structure Composing where
  finished : Text
  base : Option CodePoint
  marks : Text

namespace Composing

/-- All of what has been composed, backwards. -/
def all (state : Composing) : Text := state.marks ++ state.base.toList ++ state.finished

/-- Whether a character stands too far from the base to be composed with it. -/
def isBlocked (state : Composing) (c : CodePoint) : Bool :=
  match state.marks with
  | [] => false
  | last :: _ => combiningClass c ≤ combiningClass last

/-- Go on without composing. -/
def keep (state : Composing) (c : CodePoint) : Composing :=
  if combiningClass c = 0 then ⟨state.all, some c, []⟩
  else { state with marks := c :: state.marks }

/-- Compose a character with the base, if that is possible. -/
def step (state : Composing) (c : CodePoint) : Composing :=
  match if state.isBlocked c then none else state.base.bind (compose? · c) with
  | some composed => { state with base := some composed }
  | none => state.keep c

end Composing

/-- The composed form of a text. -/
def composed (s : Text) : Text :=
  ((ordered (s.flatMap (takenApart deepestComposition))).foldl Composing.step
    ⟨[], none, []⟩).all.reverse

/-- Putting a mark in order adds one character. -/
@[simp] theorem length_insertMark (c : CodePoint) (s : Text) :
    (insertMark c s).length = s.length + 1 := by
  induction s with
  | nil => rfl
  | cons last before ih =>
    simp only [insertMark]
    split <;> simp [ih]

/-- Putting marks in order loses none of them. -/
@[simp] theorem length_ordered (s : Text) : (ordered s).length = s.length := by
  have step : ∀ (before : Text),
      (s.foldl (fun before c => insertMark c before) before).length = before.length + s.length := by
    induction s with
    | nil => simp
    | cons c s ih =>
      intro before
      rw [List.foldl_cons, ih, length_insertMark, List.length_cons]
      omega
  simp [ordered, step]

end ConversionRelay.Text
