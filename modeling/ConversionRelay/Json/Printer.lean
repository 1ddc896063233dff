import ConversionRelay.Number.Decimal
import ConversionRelay.Text.Pieces
import ConversionRelay.Text.Quoted
import ConversionRelay.Value
/-!
Writing JSON text.

A layout says whether the text is one line or indented, whether blanks follow the separators,
whether fields keep their order or are sorted by key, and whether characters beyond ASCII are
written as they are. Where they are not, every character but the printable ones of ASCII is escaped,
by a letter if it has one and else by its UTF-16 units.

Every piece is written in front of the text that follows it, so that a text is built once however
deep its values are nested.
-/
namespace ConversionRelay.Json

/-- How a document is laid out. -/
structure Layout where
  /-- Blanks per level of nesting; everything on one line if absent. -/
  indent : Option Nat
  /-- Whether the fields of objects are sorted by key. -/
  sorted : Bool
  /-- Whether a blank follows a colon, and a comma on one line. -/
  spaced : Bool
  /-- Whether every character but the printable ones of ASCII is escaped. -/
  escaped : Bool
  deriving DecidableEq, Repr

/-- One line, fields in their own order. -/
def Layout.line : Layout := ⟨none, false, true, true⟩

/-- One line, fields sorted by key. -/
def Layout.canonical : Layout := { Layout.line with sorted := true }

/-- Indented, fields in their own order. -/
def Layout.indented (width : Nat) : Layout := { Layout.line with indent := some width }

/-- Indented by two, fields in their own order. -/
def Layout.pretty : Layout := .indented 2

/-- As short as can be. -/
def Layout.compact : Layout := ⟨none, false, false, false⟩

/-- Numbers: positional from 0.0001 up to below 10^16, an exponent of two digits. -/
def numberStyle : DecimalStyle :=
  { positionalFrom := -4
    positionalBelow := 16
    exponentWidth := 2
    notANumber := "NaN"
    infinite := "Infinity" }

/-- The escape of one UTF-16 unit. -/
def unitEscape (unit : Nat) : Text := "\\u" ++ Text.hex 4 unit

/-- The escape of a code point by its UTF-16 units. -/
def unitEscapes (c : CodePoint) : Text :=
  if c.code < 0x10000 then unitEscape c.code
  else
    let n := c.code - 0x10000
    unitEscape (0xd800 + n / 0x400) ++ unitEscape (0xdc00 + n % 0x400)

/-- Whether a code point that has no letter is written as it is. -/
def Layout.keeps (layout : Layout) (c : CodePoint) : Bool :=
  0x20 ≤ c.code && (!layout.escaped || c.code < 0x7f)

/-- One code point of a string. -/
def Layout.stringChar (layout : Layout) (c : CodePoint) : Text :=
  if c = '\x22' then "\\\x22"
  else if c = '\\' then "\\\\"
  else if c = '\n' then "\\n"
  else if c = '\r' then "\\r"
  else if c = '\t' then "\\t"
  else if c = '\x08' then "\\b"
  else if c = '\x0c' then "\\f"
  else if layout.keeps c then [c]
  else unitEscapes c

/-- What is written in front of a text that follows it. -/
abbrev Writing := Text → Text

/-- A text in front of another. -/
def written (s : Text) : Writing := fun tail => s ++ tail

/-- A string between quotes. -/
def Layout.string (layout : Layout) (s : Text) : Writing := fun tail =>
  "\x22" ++ s.flatMap layout.stringChar ++ "\x22" ++ tail

/-- What stands before an item at a level of nesting: a line break and the indentation, if any. -/
def Layout.lineStart (layout : Layout) (level : Nat) : Text :=
  match layout.indent with
  | none => []
  | some width => '\n' :: Text.spaces (width * level)

/-- What stands between two items. -/
def Layout.separator (layout : Layout) (level : Nat) : Text :=
  match layout.indent with
  | none => if layout.spaced then ", " else ","
  | some _ => ',' :: layout.lineStart level

/-- What stands between a key and its value. -/
def Layout.colon (layout : Layout) : Text := if layout.spaced then ": " else ":"

/-- Items between brackets; nothing between them if there are none. -/
def Layout.enclose (layout : Layout) (level : Nat) (opening closing : CodePoint)
    (items : List Writing) : Writing := fun tail =>
  match items with
  | [] => opening :: closing :: tail
  | first :: others =>
    opening :: (layout.lineStart (level + 1) ++
      first (others.foldr (fun item rest => layout.separator (level + 1) ++ item rest)
        (layout.lineStart level ++ closing :: tail)))

/-- Fields in the order that the layout asks for. -/
def Layout.arrange (layout : Layout) (fields : List (Text × Writing)) : List (Text × Writing) :=
  if layout.sorted then fields.mergeSort fun a b => Text.le a.1 b.1 else fields

/-- A field: its key, a colon and its value. -/
def Layout.field (layout : Layout) (field : Text × Writing) : Writing := fun tail =>
  layout.string field.1 (layout.colon ++ field.2 tail)

mutual
/-- A value at a level of nesting. -/
def render (layout : Layout) (level : Nat) : Value → Writing
  | .null => written "null"
  | .bool true => written "true"
  | .bool false => written "false"
  | .int n => written (Decimal.ofInt n)
  | .double x => written (numberStyle.write x)
  | .string s => layout.string s
  | .array items => layout.enclose level '[' ']' (renderItems layout (level + 1) items)
  | .object fields =>
    layout.enclose level '\x7b' '\x7d'
      ((layout.arrange (renderFields layout (level + 1) fields)).map layout.field)

/-- The items of a list. -/
def renderItems (layout : Layout) (level : Nat) : List Value → List Writing
  | [] => []
  | v :: rest => render layout level v :: renderItems layout level rest

/-- The keys of an object with their values. -/
def renderFields (layout : Layout) (level : Nat) :
    List (Text × Value) → List (Text × Writing)
  | [] => []
  | (k, v) :: rest => (k, render layout level v) :: renderFields layout level rest
end

/-- The text of a value in a layout. -/
def print (layout : Layout) (v : Value) : Text := render layout 0 v []

mutual
/-- Whether every number in a value is finite. -/
def allFinite : Value → Bool
  | .double x => x.isFinite
  | .array items => allFiniteItems items
  | .object fields => allFiniteFields fields
  | _ => true

/-- Whether every number in the items of a list is finite. -/
def allFiniteItems : List Value → Bool
  | [] => true
  | v :: rest => allFinite v && allFiniteItems rest

/-- Whether every number in the fields of an object is finite. -/
def allFiniteFields : List (Text × Value) → Bool
  | [] => true
  | (_, v) :: rest => allFinite v && allFiniteFields rest
end

end ConversionRelay.Json
