import ConversionRelay.Fault
/-!
Bindings of variables to data layer paths.

A container defines its variables in records. A record binds if it has a name and, among its
parameters, a data layer variable with a value; the first such value is the path. Of two records
that bind one name, the first gives the place and the last the path.

Main statement: a record that does not bind changes nothing (`Bindings.bind_of_ofRecord?_eq_none`).
-/
namespace ConversionRelay

/-- Variables with their data layer paths, in the order in which they were bound first. Names and
paths are texts in every sensible container, but a container may hold anything. -/
abbrev Bindings := OrderedMap Value Value

namespace Bindings

/-- The key of the parameter that holds a data layer path. -/
def pathParameter : Text := "dataLayerVariable"

/-- The path that a parameter gives, if it gives one. -/
def pathOfParameter? : Value → Option Value
  | .object fields =>
    let given := Value.fieldOf fields "value"
    if (Value.fieldOf fields "key").equal (.string pathParameter) && given.isTruthy then some given
    else none
  | _ => none

/-- The name and the path that a record of a variable binds, if it binds. -/
def ofRecord? : Value → Option (Value × Value)
  | .object fields =>
    let name := Value.fieldOf fields "name"
    if name.isTruthy then
      ((Value.fieldOf fields "parameter").itemsOrNone.findSome? pathOfParameter?).map (name, ·)
    else none
  | _ => none

/-- Add what a record binds. Lists and objects cannot be names. -/
def bind (bindings : Bindings) (record : Value) : Except Fault Bindings :=
  match ofRecord? record with
  | none => .ok bindings
  | some (name, path) =>
    if name.isKey then .ok (OrderedMap.put bindings name path) else .error (.notKey name.kind)

/-- The bindings of the records of a container. -/
def ofRecords (records : List Value) : Except Fault Bindings := records.foldlM bind []

/-- The bindings of a document that should be a list of records; any other document has none. -/
def ofDocument (document : Value) : Except Fault Bindings := ofRecords document.itemsOrNone

/-- A record that does not bind changes nothing. -/
theorem bind_of_ofRecord?_eq_none {bindings : Bindings} {record : Value}
    (h : ofRecord? record = none) : bind bindings record = .ok bindings := by
  simp [bind, h]

end Bindings

end ConversionRelay
