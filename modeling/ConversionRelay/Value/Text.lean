import ConversionRelay.Number.Decimal
import ConversionRelay.Text.Pieces
import ConversionRelay.Text.Quoted
import ConversionRelay.Value
/-!
The text of values inside messages.

A string stands for itself. Every other value has a literal, and inside lists and objects strings
have one too: they are quoted there.
-/
namespace ConversionRelay

/-- Numbers in messages: positional from 0.0001 up to below 10^16, an exponent of two digits. -/
def Value.numberStyle : DecimalStyle :=
  { positionalFrom := -4
    positionalBelow := 16
    exponentWidth := 2
    notANumber := "nan"
    infinite := "inf" }

namespace Value

mutual
/-- The literal of a value. -/
def literal : Value → Text
  | null => "None"
  | bool true => "True"
  | bool false => "False"
  | int n => Decimal.ofInt n
  | double x => numberStyle.write x
  | string s => Text.quoted s
  | array items => "[" ++ Text.join ", " (literalItems items) ++ "]"
  | object fields => "\x7b" ++ Text.join ", " (literalFields fields) ++ "\x7d"

/-- The literals of the items of a list. -/
def literalItems : List Value → List Text
  | [] => []
  | v :: rest => literal v :: literalItems rest

/-- The literals of the fields of an object, key and value with a colon between. -/
def literalFields : List (Text × Value) → List Text
  | [] => []
  | (k, v) :: rest => (Text.quoted k ++ ": " ++ literal v) :: literalFields rest
end

/-- The text of a value in a message. -/
def text : Value → Text
  | string s => s
  | v => literal v

@[simp] theorem text_string (s : Text) : (string s).text = s := rfl

end Value

end ConversionRelay
