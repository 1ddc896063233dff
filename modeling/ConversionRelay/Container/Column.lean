import ConversionRelay.Value
/-!
Columns of document values.

A column of a table has one representation for all of its values where it can. Texts stay texts and
truth values truth values. Numbers are whole numbers of one kind of 64-bit words, or binary numbers
as soon as one of them is binary or missing. Whatever does not fit stays as it is.

Main statement: in one representation a column is as long as before (`Column.length_unify`).
-/
namespace ConversionRelay

/-- What a column of values is represented by. -/
inductive ColumnKind where
  | texts
  | truths
  | wholes
  | binaries
  | mixed
  deriving DecidableEq, Repr

/-- Whether the values of a column are numbers; truth values count as such. -/
def ColumnKind.isNumeric : ColumnKind → Bool
  | texts => false
  | truths => true
  | wholes => true
  | binaries => true
  | mixed => false

/-- A column of values; null stands for what is missing. -/
abbrev Column := List Value

namespace Column

/-- Whether a value is a text. -/
def isText : Value → Bool
  | .string _ => true
  | _ => false

/-- Whether a value is a truth value. -/
def isTruth : Value → Bool
  | .bool _ => true
  | _ => false

/-- Whether a value is a number. -/
def isNumber : Value → Bool
  | .int _ => true
  | .double _ => true
  | _ => false

/-- Whether a value is a binary number or missing. -/
def isBinaryOrGap : Value → Bool
  | .double _ => true
  | .null => true
  | _ => false

/-- Whether a value is missing or not-a-number. -/
def isGap (v : Value) : Bool := v.isNull || v.isNaN

/-- Whether a value can stand among words of 64 bits, with or without a sign; a value that is no
whole number is of no concern to them. -/
def fitsWord (signed : Bool) : Value → Bool
  | .int n =>
    if signed then -9223372036854775808 ≤ n && n ≤ 9223372036854775807
    else 0 ≤ n && n ≤ 18446744073709551615
  | _ => true

/-- Whether all whole numbers of a column fit into words of one kind. -/
def fitsWords (column : Column) : Bool :=
  column.all (fitsWord true) || column.all (fitsWord false)

/-- The representation of a column. -/
def kind (column : Column) : ColumnKind :=
  if column.any isText && column.all (fun v => isText v || isGap v) then .texts
  else if column.all isTruth then .truths
  else if column.any isNumber && column.all (fun v => isNumber v || v.isNull) && fitsWords column
  then
    if column.any isBinaryOrGap then .binaries else .wholes
  else .mixed

/-- A whole number as a binary number; other values are kept. -/
def toBinary : Value → Value
  | .int n => .double (Binary64.ofInt n)
  | other => other

/-- A column in its representation. -/
def unify (column : Column) : Column :=
  if kind column = .binaries then column.map toBinary else column

/-- A representation leaves no value out. -/
@[simp] theorem length_unify (column : Column) : (unify column).length = column.length := by
  unfold unify
  split <;> simp

end Column

end ConversionRelay
