import ConversionRelay.Container.ColumnText
import ConversionRelay.Container.Coverage
import ConversionRelay.Text.Table
/-!
The coverage of a container as a table for reading.

A coverage has three columns, of which that of the paths may hold anything. A coverage without
variables is told in words.

Main statement: a coverage without variables is shown as such (`table_nil`).
-/
namespace ConversionRelay.Coverage

/-- A coverage without variables as it is shown. -/
def emptyTable : Text :=
  let named : Text := "Columns: [" ++ Text.join ", " columns ++ "]"
  Text.join "\n" ["Empty DataFrame", named, "Index: []"]

/-- The columns of rows of a coverage. -/
def columnsOf (rows : List Row) : List Column := [
  rows.map fun row => .string row.name,
  rows.map Row.path,
  rows.map fun row => .string row.source.name]

/-- Columns as rows. -/
def transpose (columns : List (List Text)) : List (List Text) :=
  columns.foldr (List.zipWith List.cons) (List.replicate ((columns.headD []).length) [])

/-- A coverage as a table. -/
def table (coverage : Coverage) : Text :=
  match coverage.rows with
  | [] => emptyTable
  | found =>
    let parts := columnsOf found
    Text.table (List.zipWith Column.heading parts columns) (transpose (parts.map Column.cells))

/-- A coverage without variables is shown as such. -/
theorem table_nil : table [] = emptyTable := by
  simp [table, rows]

end ConversionRelay.Coverage
