import ConversionRelay.Command.Words
/-!
What a command line asks for.

In front of the command stand the options of the program, behind it the file that the command works
on and the options of the command, in any order. A later value of an option replaces an earlier one.
A command line with a word too many, or without its command or file, is refused; but whoever asks
for help before that is found out gets it.

Main statement: a command line without words is refused (`Invocation.ofArguments_nil`).
-/
namespace ConversionRelay.Command

/-- A request for one of the commands. -/
inductive Request where
  | extract (file output customer : Text)
  | analyze (file : Text)
  deriving DecidableEq, Repr

/-- What a command line asks for. -/
structure Invocation where
  /-- Whether every line of the log is wanted. -/
  verbose : Bool
  request : Request
  deriving DecidableEq, Repr

/-- What the words of a command line have been found to give. -/
structure Gathered where
  operand : Option Text
  flags : List Switch
  /-- The values of options, the latest first. -/
  values : List (Switch × Text)
  /-- Whether a word has no meaning where it stands. -/
  strange : Bool
  deriving DecidableEq, Repr

namespace Gathered

/-- Nothing so far. -/
def nothing : Gathered := ⟨none, [], [], false⟩

/-- A word without a meaning. -/
def withStrange (found : Gathered) : Gathered := { found with strange := true }

/-- An operand, of which only the first has a meaning. -/
def withOperand (found : Gathered) (text : Text) : Gathered :=
  match found.operand with
  | none => { found with operand := some text }
  | some _ => found.withStrange

/-- The value of an option. -/
def withValue (found : Gathered) (switch : Switch) (text : Text) : Gathered :=
  { found with values := (switch, text) :: found.values }

/-- Options without a value. One of them may ask for help. -/
def withFlags (found : Gathered) (flags : List Switch) : Except Stop Gathered :=
  if flags.contains .help then .error .helpWanted
  else .ok { found with flags := found.flags ++ flags }

/-- The value of an option, or what stands for its absence. -/
def valueOf (found : Gathered) (switch : Switch) (absent : Text) : Text :=
  match found.values.find? fun entry => entry.1 == switch with
  | some entry => entry.2
  | none => absent

end Gathered

/-- Gather what the words after a command give. One separator next to the operand belongs to it. -/
def gather (allowed : List Switch) : List Word → Gathered → Except Stop Gathered
  | [], found => .ok found
  | .operand text :: .separator :: rest, found =>
    if found.operand.isNone then gather allowed rest (found.withOperand text)
    else gather allowed rest found.withStrange
  | .operand text :: rest, found => gather allowed rest (found.withOperand text)
  | .separator :: rest, found =>
    if found.operand.isNone && !rest.isEmpty then gather allowed rest found
    else gather allowed rest found.withStrange
  | .unknownOption :: rest, found => gather allowed rest found.withStrange
  | .option switch short attached :: rest, found =>
    match Cluster.ofOption allowed switch short attached with
    | .error stop => .error stop
    | .ok ⟨flags, ending⟩ =>
      match ending, rest with
      | .pending awaiting, .operand text :: rest =>
        match found.withFlags flags with
        | .error stop => .error stop
        | .ok found => gather allowed rest (found.withValue awaiting text)
      | .pending _, _ => .error .refused
      | .value given text, rest =>
        match found.withFlags flags with
        | .error stop => .error stop
        | .ok found => gather allowed rest (found.withValue given text)
      | .complete, rest =>
        match found.withFlags flags with
        | .error stop => .error stop
        | .ok found => gather allowed rest found

/-- What stands in front of a command, the name of the command, and what stands behind it. -/
structure Opening where
  before : Gathered
  command : Text
  behind : List Text

/-- Find the command among words; no option in front of it takes a value. -/
def findCommand (allowed : List Switch) :
    List (Word × Text) → Gathered → Except Stop Opening
  | [], _ => .error .refused
  | (.operand command, _) :: rest, found => .ok ⟨found, command, rest.map Prod.snd⟩
  | (.separator, _) :: _, _ => .error .refused
  | (.unknownOption, _) :: rest, found => findCommand allowed rest found.withStrange
  | (.option switch short attached, _) :: rest, found =>
    match Cluster.ofOption allowed switch short attached with
    | .error stop => .error stop
    | .ok cluster =>
      match found.withFlags cluster.flags with
      | .error stop => .error stop
      | .ok found => findCommand allowed rest found

/-- The options of the program. -/
def programSwitches : List Switch := [.help, .verbose]

/-- The options of a command; nothing if there is no such command. -/
def switchesOf? (command : Text) : Option (List Switch) :=
  if command = "extract" then some [.help, .output, .customer]
  else if command = "analyze" then some [.help]
  else none

/-- Where a configuration goes if nothing else is said. -/
def defaultOutput : Text := "./config.json"

/-- The customer of a configuration if none is named. -/
def defaultCustomer : Text := "customer-001"

/-- The request for a command with its file and options. -/
def requestOf (command file : Text) (found : Gathered) : Request :=
  if command = "extract" then
    .extract file (found.valueOf .output defaultOutput) (found.valueOf .customer defaultCustomer)
  else .analyze file

/-- Read a command line. -/
def Invocation.ofArguments (arguments : List Text) : Except Stop Invocation := do
  let words ← Word.classifyAll programSwitches arguments
  let opening ← findCommand programSwitches (words.zip arguments) .nothing
  match switchesOf? opening.command with
  | none => throw .refused
  | some allowed =>
    let words ← Word.classifyAll allowed opening.behind
    let found ← gather allowed words .nothing
    match found.operand with
    | some file =>
      if opening.before.strange || found.strange then throw .refused
      else return {
        verbose := opening.before.flags.contains .verbose
        request := requestOf opening.command file found }
    | none => throw .refused

/-- A command line without words is refused. -/
theorem Invocation.ofArguments_nil : Invocation.ofArguments [] = .error .refused := rfl

end ConversionRelay.Command
