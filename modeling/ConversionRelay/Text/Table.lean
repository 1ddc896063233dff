import ConversionRelay.Text.Pieces
/-!
Tables as plain text.

A cell stands at the right of its column, and a column is as wide as its widest cell, the heading
included. One blank separates two columns. Whatever would break a line is escaped inside a cell.

Main statement: a cell that is no wider than its column fills the column (`length_padLeft`).
-/
namespace ConversionRelay.Text

/-- One character of a cell. -/
def cellChar (c : CodePoint) : Text :=
  if c = '\t' then "\\t" else if c = '\n' then "\\n" else if c = '\r' then "\\r" else [c]

/-- A text as it is shown in a cell. -/
def cell (s : Text) : Text := s.flatMap cellChar

/-- The widths of the columns of a table. -/
def columnWidths (heading : List Text) (rows : List (List Text)) : List Nat :=
  rows.foldl (fun widths row => List.zipWith max widths (row.map List.length))
    (heading.map List.length)

/-- The lines of a table, of which the heading is the first. -/
def tableLines (heading : List Text) (rows : List (List Text)) : List Text :=
  let widths := columnWidths heading rows
  (heading :: rows).map fun row => join " " (List.zipWith padLeft widths row)

/-- The text of a table with the given heading and rows. -/
def table (heading : List Text) (rows : List (List Text)) : Text :=
  join "\n" (tableLines heading rows)

/-- A cell that is no wider than its column fills the column. -/
theorem length_padLeft {width : Nat} {s : Text} (fits : s.length ≤ width) :
    (padLeft width s).length = width := by
  simp only [padLeft, spaces, List.length_append, List.length_replicate]
  omega

end ConversionRelay.Text
