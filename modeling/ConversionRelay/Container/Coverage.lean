import ConversionRelay.Container.Binding
import ConversionRelay.Container.Column
import ConversionRelay.Container.NamePath
import ConversionRelay.Container.Reference
/-!
How far the variables that tags refer to are mapped to data layer paths.

A variable that is bound has the path of its binding, whatever its name suggests. Any other variable
has the path that its name suggests, if any; the rest has to be mapped by hand.

Main statement: the covered variables are those asked for, each once and in the order of code points
(`Coverage.keys_ofVariables`).
-/
namespace ConversionRelay

/-- Where the path of a variable comes from. -/
inductive PathSource where
  | bound
  | suggested
  | unmapped
  deriving DecidableEq, Repr

/-- The name of a source. -/
def PathSource.name : PathSource → Text
  | bound => "macro"
  | suggested => "heuristic"
  | unmapped => "unmapped"

/-- The path of a variable, null if it has none, and where the path comes from. -/
structure VariablePath where
  path : Value
  source : PathSource

/-- The paths of variables. -/
abbrev Coverage := OrderedMap Text VariablePath

namespace Coverage

/-- The path of one variable. -/
def pathOf (bindings : Bindings) (name : Text) : VariablePath :=
  match OrderedMap.lookup? bindings (.string name) with
  | some path => ⟨path, .bound⟩
  | none =>
    match NamePath.ofName? name with
    | some path => ⟨.string path, .suggested⟩
    | none => ⟨.null, .unmapped⟩

/-- The paths of variables, each once and ordered by code points. -/
def ofVariables (names : List Text) (bindings : Bindings) : Coverage :=
  (Reference.distinct names).map fun name => (name, pathOf bindings name)

/-- The variables without a path, ordered by code points. -/
def unmapped (coverage : Coverage) : List Text :=
  (OrderedMap.keys (coverage.filter fun entry => entry.2.source == .unmapped)).mergeSort Text.le

/-- The names of the columns of a coverage table. -/
def columns : List Text := ["variable", "datalayer_path", "source"]

/-- A row of a coverage table. -/
structure Row where
  name : Text
  path : Value
  source : PathSource

/-- The rows of the table of a coverage, ordered by variable. -/
def rows (coverage : Coverage) : List Row :=
  let ordered := coverage.mergeSort fun a b => Text.le a.1 b.1
  (ordered.zip (Column.unify (ordered.map fun entry => entry.2.path))).map fun (entry, path) =>
    ⟨entry.1, path, entry.2.source⟩

/-- The covered variables are those asked for. -/
@[simp] theorem keys_ofVariables (names : List Text) (bindings : Bindings) :
    OrderedMap.keys (ofVariables names bindings) = Reference.distinct names := by
  simp [ofVariables, OrderedMap.keys, List.map_map, Function.comp_def]

end Coverage

end ConversionRelay
