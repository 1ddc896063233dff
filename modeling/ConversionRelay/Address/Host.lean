import ConversionRelay.Address.Flaw
import ConversionRelay.Address.Label
import ConversionRelay.Text.Case
/-!
Hosts of addresses.

A host is one of four things. What has the shape of four numbers has to be an address of four
numbers, and what stands in brackets an address of eight groups. Anything else in ASCII is taken for
a name as it is, and any other name has to have a spelling in ASCII.

Main statement: nothing is wrong with the address of no host (`hostFlaw?_nil`).
-/
namespace ConversionRelay.Address

open Text

section FourNumbers

/-- The separator of numbers and labels. -/
def dot : CodePoint := '.'

/-- Go one character further in a shape of four runs of digits with any character between each two.
A state tells how many separators are still to come and whether the run at hand has a digit. -/
def shapeStep (states : List (Nat × Bool)) (c : CodePoint) : List (Nat × Bool) :=
  (states.flatMap fun state =>
    (if c.isDigit then [(state.1, true)] else []) ++
      (if state.2 && state.1 ≠ 0 then [(state.1 - 1, false)] else [])).eraseDups

/-- Whether a host has the shape of four numbers. -/
def hasShapeOfFour (host : Text) : Bool :=
  (host.foldl shapeStep [(3, false)]).contains (0, true)

/-- Whether a text is a number below 256 without needless zeros. -/
def isByteNumber (s : Text) : Bool :=
  !s.isEmpty && s.length ≤ 3 && s.all CodePoint.isDigit &&
    (s.length = 1 || s.head? ≠ some '0') &&
    s.foldl (fun n c => n * 10 + c.digitValue) 0 ≤ 255

/-- Whether a text is an address of four numbers. -/
def isIPv4 (s : Text) : Bool :=
  (cut dot s).length = 4 && (cut dot s).all isByteNumber

end FourNumbers

section EightGroups

/-- The separator of groups. -/
def colon : CodePoint := ':'

/-- What separates an address from its scope. -/
def scopeMark : CodePoint := '%'

/-- Whether a character is a hexadecimal digit. -/
def isHexDigit (c : CodePoint) : Bool :=
  c.isDigit || (0x61 ≤ c.code && c.code ≤ 0x66) || (0x41 ≤ c.code && c.code ≤ 0x46)

/-- Whether a text is a group of up to four hexadecimal digits. -/
def isGroup (s : Text) : Bool := !s.isEmpty && s.length ≤ 4 && s.all isHexDigit

/-- A group of zeros. -/
def zeroGroup : Text := "0"

/-- The groups of an address, of which the last two may be written as four numbers. -/
def groupsOf? (s : Text) : Option (List Text) :=
  let groups := cut colon s
  match groups.getLast? with
  | none => none
  | some last =>
    if groups.length < 3 then none
    else if last.contains dot then
      if isIPv4 last then some (groups.dropLast ++ [zeroGroup, zeroGroup]) else none
    else some groups

/-- How many groups stand on one side of a gap, where nothing at all may stand; nothing if they are
no groups. -/
def sideLength? (groups : List Text) : Option Nat :=
  if groups == [[]] then some 0
  else if groups.all isGroup then some groups.length
  else none

/-- The positions, but the first and the last one, at which nothing stands. -/
def gaps (groups : List Text) : List Nat :=
  ((groups.dropLast.zipIdx).drop 1).filterMap fun group =>
    if group.1.isEmpty then some group.2 else none

/-- Whether groups make up an address: eight of them, or fewer with one gap. -/
def areEight (groups : List Text) : Bool :=
  groups.length ≤ 9 &&
    match gaps groups with
    | [] => groups.length = 8 && groups.all isGroup
    | [gap] =>
      match sideLength? (groups.take gap), sideLength? (groups.drop (gap + 1)) with
      | some before, some after => before + after < 8
      | _, _ => false
    | _ => false

/-- Whether a text is an address of eight groups, with or without a scope. -/
def isIPv6 (s : Text) : Bool :=
  match cut scopeMark s with
  | [address] => ((groupsOf? address).map areEight).getD false
  | [address, scope] => !scope.isEmpty && ((groupsOf? address).map areEight).getD false
  | _ => false

end EightGroups

section Names

/-- The characters that separate labels. -/
def labelDots : List Nat := [0x2e, 0x3002, 0xff0e, 0xff61]

/-- The labels of a name. -/
def labelsOf (name : Text) : List Text :=
  cut dot (name.map fun c => if labelDots.contains c.code then dot else c)

/-- The labels of a name but for the empty one behind a dot at its end. -/
def properLabels (name : Text) : List Text :=
  let labels := labelsOf name
  if labels.getLast? == some [] then labels.dropLast else labels

/-- Whether a name has a spelling in ASCII, and is not too long in either. -/
def isName (name : Text) : Bool :=
  if longestName < name.length then false
  else
    match (properLabels name).mapM spelling? with
    | none => false
    | some spelled => (join [dot] spelled).length < longestName

end Names

/-- Whether a host stands in brackets. -/
def isBracketed (host : Text) : Bool := host.head? = some '[' && host.getLast? = some ']'

/-- What is wrong with a host, if anything is. -/
def hostFlaw? (host : Text) : Option AddressFlaw :=
  if host.isEmpty then none
  else if hasShapeOfFour host then if isIPv4 host then none else some (.notIPv4 host)
  else if isBracketed host then
    if isIPv6 (host.drop 1).dropLast then none else some (.notIPv6 host)
  else if host.all CodePoint.isAscii || isName (lower host) then none
  else some (.notName host)

/-- Nothing is wrong with the address of no host. -/
@[simp] theorem hostFlaw?_nil : hostFlaw? [] = none := by simp [hostFlaw?]

end ConversionRelay.Address
