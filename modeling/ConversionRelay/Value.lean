import ConversionRelay.Number.Binary64
import ConversionRelay.OrderedMap
import ConversionRelay.Text.CodePoint
/-!
Document values: what exports, configurations, data layers and payloads are made of.

Integers have any size and are told apart from binary numbers when they are written, but not when
values are compared: a number equals every number of the same value, and the truth values count as
one and zero. Objects are equal when they bind the same keys to the same values, in any order.

Main statements: a number is interchangeable with itself (`Quantity.same_self`), while a
not-a-number does not even equal itself (`Value.equal_nan`).
-/
namespace ConversionRelay

/-- A document value. -/
inductive Value where
  | null
  | bool (b : Bool)
  | int (n : Int)
  | double (x : Binary64)
  | string (s : Text)
  | array (items : List Value)
  | object (fields : List (Text × Value))
  deriving Inhabited

/-- The fields of an object. -/
abbrev Fields := OrderedMap Text Value

/-- The kinds of values, as messages name them. -/
inductive Kind where
  | null | bool | int | double | string | array | object
  deriving DecidableEq, Repr

/-- The word that a message uses for a kind. -/
def Kind.word : Kind → Text
  | .null => "NoneType"
  | .bool => "bool"
  | .int => "int"
  | .double => "float"
  | .string => "str"
  | .array => "list"
  | .object => "dict"

namespace Value

/-- The kind of a value. -/
def kind : Value → Kind
  | null => .null
  | bool _ => .bool
  | int _ => .int
  | double _ => .double
  | string _ => .string
  | array _ => .array
  | object _ => .object

/-- Whether a value counts as present: null, false, zero and whatever is empty do not. -/
def isTruthy : Value → Bool
  | null => false
  | bool b => b
  | int n => n != 0
  | double x => !x.isZero
  | string s => !s.isEmpty
  | array items => !items.isEmpty
  | object fields => !fields.isEmpty

/-- Whether a value is null. -/
def isNull : Value → Bool
  | null => true
  | _ => false

/-- The first value if it counts as present, otherwise the second. -/
def orElse (v other : Value) : Value := if v.isTruthy then v else other

/-- The fields of an object; nothing for any other value. -/
def fields? : Value → Option Fields
  | object fields => some fields
  | _ => none

/-- The items of a list; nothing for any other value. -/
def items? : Value → Option (List Value)
  | array items => some items
  | _ => none

/-- The items of a list, and none of any other value. -/
def itemsOrNone : Value → List Value
  | array items => items
  | _ => []

/-- The text that a value is; nothing for any other value. -/
def text? : Value → Option Text
  | string s => some s
  | _ => none

/-- What an object binds a key to, null if nothing. -/
def fieldOf (fields : Fields) (key : Text) : Value := (OrderedMap.lookup? fields key).getD null

/--
What a loop over a value passes: the items of a list, the code points of a text, the keys of an
object. Nothing else can be looped over.
-/
def elements? : Value → Option (List Value)
  | array items => some items
  | string s => some (s.map fun c => string [c])
  | object fields => some (fields.map fun field => string field.1)
  | _ => none

/-- An optional value, null standing for none. -/
def ofOption : Option Value → Value
  | none => null
  | some v => v

/-- An optional text, null standing for none. -/
def ofText : Option Text → Value
  | none => null
  | some s => string s

end Value

/-- A number of either kind. -/
inductive Quantity where
  | whole (n : Int)
  | binary (x : Binary64)

namespace Quantity

/-- The number that a value counts as; the truth values count as one and zero. -/
def ofValue? : Value → Option Quantity
  | .bool b => some (.whole (if b then 1 else 0))
  | .int n => some (.whole n)
  | .double x => some (.binary x)
  | _ => none

/-- Whether two numbers have one value, or are one and the same not-a-number. -/
def same : Quantity → Quantity → Bool
  | whole m, whole n => m == n
  | whole n, binary x => x.equalInt n
  | binary x, whole n => x.equalInt n
  | binary x, binary y => x.equal y || x == y

@[simp] theorem same_self (q : Quantity) : q.same q = true := by
  cases q <;> simp [same]

end Quantity

namespace Value

/-- Whether two values are numbers that are interchangeable. -/
def sameQuantity (v w : Value) : Bool :=
  match Quantity.ofValue? v, Quantity.ofValue? w with
  | some p, some q => p.same q
  | _, _ => false

mutual
/--
Whether two values are interchangeable as members of a list, fields of an object or keys: they are
equal, or they are one and the same not-a-number.
-/
def same : Value → Value → Bool
  | null, null => true
  | string s, string t => s == t
  | array xs, array ys => sameItems xs ys
  | object fs, object gs => fs.length == gs.length && sameFields fs gs
  | bool a, w => sameQuantity (bool a) w
  | int n, w => sameQuantity (int n) w
  | double x, w => sameQuantity (double x) w
  | _, _ => false

/-- Whether two lists have interchangeable items in the same places. -/
def sameItems : List Value → List Value → Bool
  | [], [] => true
  | x :: xs, y :: ys => same x y && sameItems xs ys
  | _, _ => false

/-- Whether every field of the first object is bound to an interchangeable value in the second. -/
def sameFields : List (Text × Value) → List (Text × Value) → Bool
  | [], _ => true
  | (k, v) :: fs, gs =>
    (match OrderedMap.lookup? gs k with
    | some w => same v w
    | none => false) && sameFields fs gs
end

/-- Whether a value is not-a-number. -/
def isNaN : Value → Bool
  | double x => x.isNaN
  | _ => false

/-- Whether two values are equal; not-a-number equals nothing, itself included. -/
def equal (v w : Value) : Bool := !v.isNaN && same v w

/-- Whether a value may serve as a key: a list or an object may not. -/
def isKey : Value → Bool
  | array _ => false
  | object _ => false
  | _ => true

/-- Keys of tables are compared as interchangeable values. -/
instance : BEq Value := ⟨same⟩

theorem equal_nan (x : Binary64) (w : Value) (h : x.isNaN = true) : equal (double x) w = false := by
  simp [equal, isNaN, h]

@[simp] theorem same_null : same null null = true := by simp [same]

end Value

end ConversionRelay
