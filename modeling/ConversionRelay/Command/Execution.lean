import ConversionRelay.Command.Invocation
import ConversionRelay.Config.Document
import ConversionRelay.Container.Analysis
import ConversionRelay.Container.Compilation
/-!
Carrying out commands on a tree of files.

A command prints a text and ends with a status. The operator sees the warnings of the log, or all of
its lines if more is wanted. A command on a file that does not exist says so and changes nothing;
any other fault ends the program.

Main statement: analysing changes no file (`files_analyze`).
-/
namespace ConversionRelay.Command

/-- What carrying out a command came to. -/
structure Outcome where
  status : Nat
  output : Text
  /-- What the operator sees. -/
  notes : Text
  files : FileTree

/-- Lines as a text. -/
def linesText (lines : List Text) : Text := lines.flatMap fun line => line ++ "\n"

/-- A line of the log as the operator sees it. -/
def noteOf (line : LogLine) : Text :=
  line.level.name ++ " " ++ line.area.name ++ ": " ++ line.message

/-- The lines of the log that the operator sees. -/
def notesOf (verbose : Bool) (lines : List LogLine) : List Text :=
  (lines.filter fun line => verbose || Level.warning.rank ≤ line.level.rank).map noteOf

/-- What is printed about an event. -/
def eventLine (name : Value) : Text := "  - " ++ name.text

/-- What is printed about variables that have to be mapped by hand, of which there may be none. -/
def unmappedLines (unmapped : List Text) : List Text :=
  if unmapped.isEmpty then []
  else ["Variables needing manual mapping: " ++ Text.join ", " unmapped]

/-- What is printed about a compilation. -/
def report (result : Compilation) (output : Text) : List Text :=
  let summary : List Text := [
    "Extracted " ++ Decimal.ofNat result.referenced.length ++ " unique variables from tags",
    "Extracted " ++ Decimal.ofNat result.bindings.length ++
      " macro definitions with dataLayer paths",
    "Config written to: " ++ output,
    "Events detected: " ++ Decimal.ofNat result.config.events.length]
  summary ++ result.config.eventNames.map eventLine ++ unmappedLines result.unmapped

/-- Compile a file and write the configuration. -/
def extract (files : FileTree) (file output customer : Text) :
    Logged (FileTree × List Text) := do
  let result ← Compilation.ofSource files (.file file) (.string customer)
  let written ← result.config.writeFile output files
  return (written.1, report result output)

/-- Analyse a file. -/
def analyze (files : FileTree) (file : Text) : Logged (FileTree × List Text) := do
  let analysis ← Analysis.ofSource files (.file file)
  return (files, [Json.print .pretty analysis.document])

/-- The file that a request works on. -/
def Request.file : Request → Text
  | .extract file _ _ => file
  | .analyze file => file

/-- What is printed before a request is carried out. -/
def Request.announcement : Request → List Text
  | .extract file _ _ => ["Extracting from: " ++ file]
  | .analyze _ => []

/-- Carry out a request on a file that exists. -/
def Request.perform (files : FileTree) : Request → Logged (FileTree × List Text)
  | .extract file output customer => Command.extract files file output customer
  | .analyze file => Command.analyze files file

/-- Carry out what a command line asks for. -/
def Invocation.execute (files : FileTree) (invocation : Invocation) : Except Fault Outcome := do
  let request := invocation.request
  if ← files.contains (FilePath.ofText request.file) then
    let (result, lines) := (request.perform files).outcome
    let (after, printed) ← result
    return {
      status := 0
      output := linesText (request.announcement ++ printed)
      notes := linesText (notesOf invocation.verbose lines)
      files := after }
  else
    return {
      status := 1
      output := linesText request.announcement
      notes := linesText ["Error: File not found: " ++ request.file]
      files }

/-- Analysing changes no file. -/
theorem files_analyze {files after : FileTree} {file : Text} {printed : List Text}
    {lines : List LogLine}
    (done : (analyze files file).outcome = (.ok (after, printed), lines)) : after = files := by
  unfold analyze Logged.outcome at done
  simp only [ExceptT.run_bind, StateT.run_bind] at done
  generalize StateT.run (ExceptT.run (Analysis.ofSource files (.file file))) [] = first at done
  obtain ⟨result, rest⟩ := first
  cases result with
  | error fault => cases done
  | ok analysis =>
    cases done
    rfl

end ConversionRelay.Command
