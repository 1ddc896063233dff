import ConversionRelay.Fault
import ConversionRelay.Text.Digit
import ConversionRelay.Text.Numeral
import ConversionRelay.Text.Pieces
/-!
Reading values out of data layers by dot paths.

A data layer is whatever a page pushed, so every branch may be missing. A segment of a path names a
field of an object, or the position of an item if it consists of digits. Whatever is not there reads
as null, and so does everything below a null or a plain value.

Main statements: an object leads on to its field (`step_object`), nothing lies below null
(`step_null`), and without a path nothing is read (`read_of_not_truthy`).
-/
namespace ConversionRelay.DataLayer

/-- The decimal digits at the start of a segment. -/
def leadingDigits (segment : Text) : Text :=
  segment.takeWhile fun c => (Text.decimalValue? c).isSome

/-- The item of a list at the position that a segment of digits denotes. A number with too many
digits is refused before the rest of the segment is looked at. -/
def itemAt (items : List Value) (segment : Text) : Except Fault Value :=
  if Text.digitLimit < (leadingDigits segment).length then
    .error (.indexTooLong (leadingDigits segment).length)
  else
    match Text.naturalOf? segment with
    | some position => .ok (items.getD position .null)
    | none => .error (.notIndex segment)

/-- One segment further from a value. -/
def step (current : Value) (segment : Text) : Except Fault Value :=
  match current with
  | .object fields => .ok (Value.fieldOf fields segment)
  | .array items => if Text.isDigits segment then itemAt items segment else .ok .null
  | _ => .ok .null

/-- The character between the segments of a path. -/
def dot : CodePoint := '.'

/-- Several segments further from a value. -/
def walk (start : Value) (segments : List (Text)) : Except Fault Value :=
  segments.foldlM step start

/-- The value that a path leads to. -/
def readPath (layer : Value) (path : Text) : Except Fault Value :=
  if layer.isTruthy && path ≠ "" then walk layer (Text.cut dot path) else .ok .null

/-- The value that a configured path leads to; only texts can be followed. -/
def read (layer path : Value) : Except Fault Value :=
  if layer.isTruthy && path.isTruthy then
    match path with
    | .string text => readPath layer text
    | other => .error (.lacks other.kind "split")
  else .ok .null

/-- The first value other than null that one of several paths leads to. -/
def readFirst (layer : Value) : List Value → Except Fault Value
  | [] => .ok .null
  | path :: others =>
    match read layer path with
    | .error fault => .error fault
    | .ok .null => readFirst layer others
    | .ok found => .ok found

/-- Whether a path leads to a value other than null. -/
def hasPath (layer path : Value) : Except Fault Bool := (read layer path).map fun v => !v.isNull

/-- Read the fields of a mapping from names to paths, leaving out those that read as null. -/
def readFields (layer : Value) : Fields → Except Fault Fields
  | [] => .ok []
  | (name, path) :: others =>
    match read layer path with
    | .error fault => .error fault
    | .ok found =>
      match readFields layer others with
      | .error fault => .error fault
      | .ok rest => .ok (if found.isNull then rest else (name, found) :: rest)

/-- An object leads on to its field. -/
@[simp] theorem step_object (fields : Fields) (segment : Text) :
    step (.object fields) segment = .ok (Value.fieldOf fields segment) := rfl

/-- Nothing lies below null. -/
@[simp] theorem step_null (segment : Text) : step .null segment = .ok .null := rfl

/-- Without a path, or without a data layer, nothing is read. -/
theorem read_of_not_truthy {layer path : Value} (h : (layer.isTruthy && path.isTruthy) = false) :
    read layer path = .ok .null := by
  simp [read, h]

end ConversionRelay.DataLayer
