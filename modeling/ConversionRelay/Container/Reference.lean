import ConversionRelay.Text.Blank
import ConversionRelay.Value
/-!
References to variables inside the tags of a container.

A reference is a name between doubled braces. It begins at the first doubled opening brace that a
text offers, and its name reaches up to the next closing brace, which has to be doubled as well; the
name may hold opening braces. Blanks around a name do not belong to it, and a blank name is none.

Parameters of tags carry values under three keys; whatever stands elsewhere in a parameter is not
looked at. A parameter that is not an object is looked through as a whole.

Main statement: the names of several tags are those of each in turn (`namesInTags_append`).
-/
namespace ConversionRelay.Reference

open Text

/-- The brace that closes a reference. -/
def closingBrace : CodePoint := '\x7d'

/-- What stands between the doubled braces of a reference at the very start of a text. -/
def captureAt? : Text → Option Text
  | .char '\x7b' :: .char '\x7b' :: rest =>
    let name := rest.takeWhile (· != closingBrace)
    let closing := (rest.drop name.length).take 2
    if !name.isEmpty && closing == [closingBrace, closingBrace] then some name else none
  | _ => none

/-- The captures of a text, after passing over `skip` characters that belong to a reference. -/
def capturesAfter : (skip : Nat) → Text → List Text
  | _, [] => []
  | skip + 1, _ :: rest => capturesAfter skip rest
  | 0, c :: rest =>
    match captureAt? (c :: rest) with
    | some name => name :: capturesAfter (name.length + 3) rest
    | none => capturesAfter 0 rest

/-- What stands between doubled braces in a text, from left to right. -/
def captures (s : Text) : List Text := capturesAfter 0 s

/-- The names that a text refers to, from left to right. -/
def names (s : Text) : List Text :=
  ((captures s).map trim).filter fun name => !name.isEmpty

mutual
/-- The names that the strings inside a value refer to. -/
def namesIn : Value → List Text
  | .string s => names s
  | .array items => namesInItems items
  | .object fields => namesInFields fields
  | _ => []

/-- The names that the items of a list refer to. -/
def namesInItems : List Value → List Text
  | [] => []
  | v :: rest => namesIn v ++ namesInItems rest

/-- The names that the values of an object refer to; its keys are not looked at. -/
def namesInFields : List (Text × Value) → List Text
  | [] => []
  | (_, v) :: rest => namesIn v ++ namesInFields rest
end

/-- The keys of a parameter that hold values. -/
def valueKeys : List Text := ["value", "list", "map"]

/-- The names that a parameter refers to. -/
def namesInParameter : Value → List Text
  | .object fields => valueKeys.flatMap fun key => namesIn (Value.fieldOf fields key)
  | other => namesIn other

/-- The names that a tag refers to, with repetitions. -/
def namesInTag : Value → List Text
  | .object fields =>
    match Value.fieldOf fields "parameter" with
    | .array parameters => parameters.flatMap namesInParameter
    | _ => []
  | _ => []

/-- The names that several tags refer to, with repetitions. -/
def namesInTags (tags : List Value) : List Text := tags.flatMap namesInTag

/-- Each name once, ordered by code points. -/
def distinct (found : List Text) : List Text := found.eraseDups.mergeSort Text.le

/-- The variables that a tag refers to. -/
def variablesOf (tag : Value) : List Text := distinct (namesInTag tag)

/-- The variables that several tags refer to. -/
def variablesOfAll (tags : List Value) : List Text := distinct (namesInTags tags)

@[simp] theorem namesIn_string (s : Text) : namesIn (.string s) = names s := by simp [namesIn]

@[simp] theorem namesInTags_append (xs ys : List Value) :
    namesInTags (xs ++ ys) = namesInTags xs ++ namesInTags ys := by simp [namesInTags]

end ConversionRelay.Reference
