import ConversionRelay.Text.CodePoint
/-!
Texts of any script in the letters and digits of ASCII.

The characters of ASCII come first, and what follows tells in ascending order where the others are
inserted: numbers in base 36 with the least digit first, of which each says how many places are
passed over. How many digits a number takes depends on thresholds that adapt to the numbers before.

Main statement: what is inserted makes a text longer by one (`Reading.length_insert`).
-/
namespace ConversionRelay.Punycode

/-- The first code point that is inserted. -/
def firstInserted : Nat := 0x80

/-- The threshold below which the digit at a place ends a number. -/
def threshold (bias place : Nat) : Nat := min 26 (max 1 (36 * (place + 1) - bias))

/-- Divide a distance until it is small; what is left and how often it was divided. -/
def shrink (distance : Nat) : Nat × Nat :=
  if h : 455 < distance then
    let rest := shrink (distance / 35)
    (rest.1, rest.2 + 1)
  else (distance, 0)
termination_by distance
decreasing_by exact Nat.div_lt_self (by omega) (by omega)

/-- The bias after a number; the first number of all is damped most. -/
def adapt (number count : Nat) (isFirst : Bool) : Nat :=
  let damped := if isFirst then number / 700 else number / 2
  let shrunk := shrink (damped + damped / count)
  36 * shrunk.2 + 36 * shrunk.1 / (shrunk.1 + 38)

/-- The bias before the first number. -/
def firstBias : Nat := 72

section Writing

/-- The character of a digit of base 36. -/
def digitChar (d : Nat) : CodePoint := .ofCode (if d < 26 then 0x61 + d else 0x30 + (d - 26))

/-- The digits of a number from a place on, within a number of steps. -/
def digits (bias : Nat) : (steps place : Nat) → Nat → Text
  | 0, _, _ => []
  | steps + 1, place, n =>
    let t := threshold bias place
    if n < t then [digitChar n]
    else
      digitChar (t + (n - t) % (36 - t)) :: digits bias steps (place + 1) ((n - t) / (36 - t))

/-- What is known while a text is written. -/
structure Writing where
  written : Text
  /-- How many places have been passed over since the last insertion. -/
  passed : Nat
  bias : Nat
  /-- How many characters have been dealt with. -/
  handled : Nat

/-- Pass a character while those with the given number are inserted. -/
def Writing.pass (inserted plain : Nat) (state : Writing) (c : CodePoint) : Writing :=
  if c.code < inserted then { state with passed := state.passed + 1 }
  else if c.code = inserted then
    { written := state.written ++ digits state.bias (state.passed.log2 + 2) 0 state.passed
      passed := 0
      bias := adapt state.passed (state.handled + 1) (state.handled == plain)
      handled := state.handled + 1 }
  else state

/-- Insert the characters with each of the given numbers, which are in ascending order. -/
def insertAll (s : Text) (plain : Nat) : (start : Nat) → List Nat → Writing → Writing
  | _, [], state => state
  | start, inserted :: later, state =>
    let reached :=
      { state with passed := state.passed + (inserted - start) * (state.handled + 1) }
    let done := s.foldl (Writing.pass inserted plain) reached
    insertAll s plain (inserted + 1) later { done with passed := done.passed + 1 }

/-- A text in the letters and digits of ASCII. -/
def encode (s : Text) : Text :=
  let plain := s.filter CodePoint.isAscii
  let others := ((s.filter fun c => !c.isAscii).map CodePoint.code).eraseDups.mergeSort
  let done := insertAll s plain.length firstInserted others ⟨[], 0, firstBias, plain.length⟩
  let separator : Text := if plain.isEmpty then "" else "-"
  plain ++ separator ++ done.written

end Writing

section Reading

/-- The value of a digit of base 36, in either case. -/
def digitValue? (c : CodePoint) : Option Nat :=
  if c.isLower then some (c.code - 0x61)
  else if c.isUpper then some (c.code - 0x41)
  else if c.isDigit then some (c.digitValue + 26)
  else none

/-- What is known while a text is read. -/
structure Reading where
  read : Text
  /-- The code point to be inserted next, and the place where to. -/
  code : Nat
  place : Nat
  bias : Nat
  /-- Whether nothing has been inserted yet. -/
  isFirst : Bool
  /-- The number that is being read, the weight of its next digit and that digit's place. -/
  number : Nat
  weight : Nat
  digit : Nat

namespace Reading

/-- Insert a character into what has been read. -/
def insert (state : Reading) (place code : Nat) : Text :=
  state.read.take place ++ CodePoint.ofCode code :: state.read.drop place

/-- Insert what a finished number tells; nothing if there is no such code point. -/
def finish (state : Reading) (number : Nat) : Option Reading :=
  let count := state.read.length + 1
  let place := state.place + number
  let code := state.code + place / count
  if 0x10ffff < code then none
  else
    some {
      read := state.insert (place % count) code
      code
      place := place % count + 1
      bias := adapt number count state.isFirst
      isFirst := false
      number := 0
      weight := 1
      digit := 0 }

/-- Read one digit. -/
def step (state : Reading) (c : CodePoint) : Option Reading :=
  (digitValue? c).bind fun d =>
    let t := threshold state.bias state.digit
    let number := state.number + d * state.weight
    if d < t then state.finish number
    else
      some { state with
        number
        weight := state.weight * (36 - t)
        digit := state.digit + 1 }

/-- What is inserted makes a text longer by one. -/
theorem length_insert (state : Reading) (place code : Nat) :
    (state.insert place code).length = state.read.length + 1 := by
  simp only [insert, List.length_append, List.length_cons, List.length_take, List.length_drop]
  omega

end Reading

/-- The last hyphen separates the characters of ASCII from the numbers. -/
def hyphen : CodePoint := '-'

/-- The text that letters and digits of ASCII stand for, if they stand for one. The last number has
to be complete. -/
def decode? (s : Text) : Option Text :=
  let numbers := (s.reverse.takeWhile (· != hyphen)).reverse
  let plain := (s.take (s.length - numbers.length)).dropLast
  (numbers.foldlM Reading.step ⟨plain, firstInserted, 0, firstBias, true, 0, 1, 0⟩).bind
    fun state => if state.digit = 0 then some state.read else none

end Reading

end ConversionRelay.Punycode
