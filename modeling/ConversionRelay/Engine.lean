import ConversionRelay.DataLayer
import ConversionRelay.Sender.Directory
import ConversionRelay.Store
/-!
Processing live events.

One engine serves every customer. For each event it reads the configuration of the customer, finds
the event in it, and lets every platform that the event is mapped to have a branch of its own:
fields are read from the data layer, shaped into a payload and delivered. A branch that fails says
so in its own result and stops no other. When all branches are done, one entry goes to the event
log, whose failure nobody but the operator learns of.

An engine may have a hook that decides whether an event is to be sent at all.

Main statements: the status of a result is what the branch ended with, whatever fields its payload
has (`PlatformResult.success_record`), and an event without a configuration touches neither hook nor
senders nor log (`Engine.process_of_no_config`).
-/
namespace ConversionRelay

/-- The result of the branch of one platform. -/
structure PlatformResult where
  success : Bool
  message : Text
  payload : Fields
  /-- What went wrong, null if nothing did. -/
  error : Value

namespace PlatformResult

/-- A result as it is answered: the payload, on which the status of the branch is laid last. -/
def record (result : PlatformResult) : Fields :=
  let bare : Fields := OrderedMap.erase result.payload "error"
  let status : Fields :=
    OrderedMap.put (OrderedMap.put bare "success" (.bool result.success)) "message"
      (.string result.message)
  if result.error.isNull then status else OrderedMap.put status "error" result.error

/-- A branch that was not taken to its end. -/
def failed (message : Text) (payload : Fields) (error : Text) : PlatformResult :=
  ⟨false, message, payload, .string error⟩

/-- What a delivery came to, with the payload that was delivered. -/
def ofOutcome (payload : Fields) (outcome : SendOutcome) : PlatformResult :=
  ⟨outcome.success, outcome.message, payload, .ofText outcome.error⟩

end PlatformResult

/-- What decides whether an event of a customer is sent. -/
abbrev Hook (ω : Type) := (customer : Value) → EventData → Run ω Bool

/-- An engine. -/
structure Engine (ω : Type) where
  store : ConfigStore ω
  log : Option (EventLog ω)
  senders : Senders ω
  hook : Option (Hook ω)

namespace Engine

variable {ω : Type}

/-- Read the configuration of a customer; an empty document is none. -/
def fetchConfig (engine : Engine ω) (customer : Value) : Run ω (Option CustomerConfig) := do
  match ← engine.store.get customer with
  | none => return none
  | some document =>
    if document.isEmpty then return none
    else return some (← Run.ofExcept (CustomerConfig.ofText document))

/-- The configuration of a customer. One that cannot be read counts as absent. -/
def loadConfig (engine : Engine ω) (customer : Value) : Run ω (Option CustomerConfig) := do
  match ← Run.attempt (engine.fetchConfig customer) with
  | .ok found => return found
  | .error _ =>
    Run.log .error .engine ("Failed to load config for " ++ customer.text)
    return none

/-- Read the fields of a payload and shape them. -/
def prepare (sender : Sender ω) (event : EventData) (mapping : Fields) : Run ω Fields := do
  sender.build event.name (← Run.ofExcept (DataLayer.readFields event.layer mapping))

/-- The result of a branch that a fault ended. -/
def branchFailed (platform : Text) (event : EventData) (payload : Fields) (fault : Fault) :
    Run ω PlatformResult := do
  Run.log .error .engine ("Send failed for " ++ platform ++ " (" ++ event.name.text ++ ")")
  return .failed (platform ++ " send failed") payload fault.text

/-- The branch of one platform. -/
def branch (engine : Engine ω) (event : EventData) (platform : Text) (mapping : Fields) :
    Run ω PlatformResult := do
  match OrderedMap.lookup? engine.senders platform with
  | none =>
    let message : Text := "No sender registered for platform: " ++ platform
    Run.log .warning .engine message
    return .failed message [] "unsupported_platform"
  | some sender =>
    match ← Run.attempt (prepare sender event mapping) with
    | .error fault => branchFailed platform event [] fault
    | .ok payload =>
      match ← Run.attempt (sender.send (.object payload)) with
      | .error fault => branchFailed platform event payload fault
      | .ok outcome => return .ofOutcome payload outcome

/-- The branches of all platforms that an event is mapped to, one after the other. -/
def branches (engine : Engine ω) (event : EventData) :
    PlatformMappings → Run ω (OrderedMap Text PlatformResult)
  | [] => return []
  | (platform, mapping) :: others => do
    let result ← engine.branch event platform mapping
    return (platform, result) :: (← engine.branches event others)

/-- The platforms whose branch succeeded. -/
def reached (results : OrderedMap Text PlatformResult) : List Text :=
  OrderedMap.keys (results.filter fun entry => entry.2.success)

/-- Add an entry to the event log, if there is one. -/
def logEvent (engine : Engine ω) (customer : Value) (event : EventData)
    (results : OrderedMap Text PlatformResult) : Run ω Unit := do
  match engine.log with
  | none => return ()
  | some log =>
    let entry : LogEntry := ⟨customer, event.name, reached results, ← Run.clock⟩
    match ← Run.attempt (log.write entry) with
    | .ok () => return ()
    | .error _ =>
      Run.log .error .engine
        ("Failed to log event " ++ event.name.text ++ " for " ++ customer.text)

/-- Whether the hook, if there is one, lets an event pass. -/
def passes (engine : Engine ω) (customer : Value) (event : EventData) : Run ω Bool :=
  match engine.hook with
  | none => return true
  | some hook => hook customer event

/-- Send an event to the platforms that it is mapped to. -/
def deliver (engine : Engine ω) (customer : Value) (event : EventData) (config : EventConfig) :
    Run ω (OrderedMap Text Fields) := do
  if ← engine.passes customer event then
    let results ← engine.branches event config.mappings
    engine.logEvent customer event results
    return results.map fun entry => (entry.1, entry.2.record)
  else
    Run.log .info .engine
      ("Skipping " ++ event.name.text ++ " for " ++ customer.text ++
        ": rejected by idempotency hook")
    return []

/-- Process an event of a customer: the results by platform. -/
def process (engine : Engine ω) (customer : Value) (event : EventData) :
    Run ω (OrderedMap Text Fields) := do
  match ← engine.loadConfig customer with
  | none => throw (.tracking (.configNotFound customer))
  | some config =>
    match config.event? event.name with
    | none => throw (.tracking (.eventNotConfigured customer event.name))
    | some found => engine.deliver customer event found

end Engine

/-- The success of a result is what the branch ended with. -/
theorem PlatformResult.success_record (result : PlatformResult) :
    OrderedMap.lookup? result.record "success" = some (.bool result.success) := by
  unfold record
  split
  · rw [OrderedMap.lookup?_put_of_ne _ _ (by decide), OrderedMap.lookup?_put_self]
  · rw [OrderedMap.lookup?_put_of_ne _ _ (by decide), OrderedMap.lookup?_put_of_ne _ _ (by decide),
      OrderedMap.lookup?_put_self]

/-- Without a configuration nothing happens after looking for it. -/
theorem Engine.process_of_no_config {ω : Type} (engine : Engine ω) (customer : Value)
    (event : EventData) (s t : Session ω)
    (absent : (engine.loadConfig customer).outcome s = (.ok none, t)) :
    (engine.process customer event).outcome s =
      (.error (.tracking (.configNotFound customer)), t) := by
  simp only [process, Run.outcome, ExceptT.run_bind, StateT.run_bind] at absent ⊢
  rw [absent]
  rfl

end ConversionRelay
