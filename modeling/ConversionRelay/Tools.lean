import ConversionRelay.Container.Analysis
import ConversionRelay.Container.Compilation
import ConversionRelay.Engine
/-!
Tools that are offered to assistants.

Each call of a tool stands for itself: it takes its settings from the environment and opens
connections of its own. Compiling and analysing need no settings unless a configuration is saved. A
tool that processes an event answers with an envelope, in which a tracking fault is a text.

Main statement: a tracking fault is answered and never raised (`Tools.envelope_tracking`).
-/
namespace ConversionRelay.Tools

variable {ω : Type}

/-- The settings of the environment together with their project, which they have to name. -/
def settingsIn (env : Settings.Environment) : Except Fault (Settings × Dataset) := do
  let settings ← Settings.ofEnvironment env
  match Settings.present? settings.project with
  | some project => return (settings, ⟨project, settings.dataset⟩)
  | none => throw .projectMissing

/-- Compile an export, and save the configuration if that is asked for. -/
def compile (env : Settings.Environment) (customer : Value) (source : Value) (save : Value) :
    Run ω Value := do
  Run.forgetConnections
  let result ← Run.ofLogged (Compilation.ofSource .empty (.document source) customer)
  if save.isTruthy then
    let (_, dataset) ← Run.ofExcept (settingsIn env)
    (ConfigStore.warehouse dataset).save result.config
  return .object [
    ("config", result.config.encode), ("summary", .object result.summary), ("saved", save)]

/-- Analyse an export. -/
def analyze (source : Value) : Run ω Value := do
  return (← Run.ofLogged (Analysis.ofSource .empty (.document source))).document

/-- The document of a customer's configuration, null if there is none. -/
def configOf (env : Settings.Environment) (customer : Value) : Run ω Value := do
  Run.forgetConnections
  let (_, dataset) ← Run.ofExcept (settingsIn env)
  match ← (ConfigStore.warehouse dataset).get customer with
  | none => return .null
  | some document => Run.ofExcept ((Json.parse document).mapError .json)

/-- The engine that settings ask for, with configurations and event log in a dataset. -/
def engineFor (settings : Settings) (dataset : Dataset) : Engine ω :=
  { store := .warehouse dataset
    log := some (.warehouse dataset)
    senders := (SenderKinds.ofSettings settings).senders
    hook := none }

/-- What processing an event came to, in an envelope. -/
def envelope : Except Fault (OrderedMap Text Fields) → Except Fault Value
  | .ok results =>
    .ok (.object [
      ("success", .bool true),
      ("results", .object (results.map fun entry => (entry.1, .object entry.2)))])
  | .error (.tracking fault) =>
    .ok (.object [("success", .bool false), ("error", .string fault.text)])
  | .error other => .error other

/-- Process an event. -/
def processEvent (env : Settings.Environment) (customer : Value) (event : EventData) :
    Run ω Value := do
  Run.forgetConnections
  let (settings, dataset) ← Run.ofExcept (settingsIn env)
  let results ← Run.attempt ((engineFor settings dataset).process customer event)
  Run.ofExcept (envelope results)

/-- A tracking fault is answered and never raised. -/
theorem envelope_tracking (fault : TrackingFault) :
    envelope (.error (.tracking fault)) =
      .ok (.object [("success", .bool false), ("error", .string fault.text)]) := rfl

end ConversionRelay.Tools
