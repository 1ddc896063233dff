import ConversionRelay.Config.Codec
import ConversionRelay.Event
import ConversionRelay.Session
/-!
Where configurations and the event log are kept.

A store gives and takes the configuration of a customer as a whole document; saving replaces what
was there. One store keeps documents in memory under keys made from customers, the other in a table
of the warehouse. The event log takes entries and is never read; the warehouse keeps it in a table,
too.

Main statement: what was saved last for a customer is what the store in memory gives
(`ConfigStore.memory_get_save`).
-/
namespace ConversionRelay

/-- A store of configurations. -/
structure ConfigStore (ω : Type) where
  /-- The document of a customer, if there is one. -/
  get : (customer : Value) → Run ω (Option Text)
  save : CustomerConfig → Run ω Unit

/-- An event log. -/
structure EventLog (ω : Type) where
  write : LogEntry → Run ω Unit

/-- The key of a customer's configuration in memory. -/
def configKey (customer : Value) : Text := "config:" ++ customer.text

namespace ConfigStore

variable {ω : Type}

/-- The store in memory. -/
def memory : ConfigStore ω :=
  { get := fun customer => do return OrderedMap.lookup? (← Run.session).shelf (configKey customer)
    save := fun config =>
      modify fun s =>
        { s with shelf := OrderedMap.put s.shelf (configKey config.customerId) config.stored } }

/-- What was saved last for a customer is what the store in memory gives. -/
theorem memory_get_save (config : CustomerConfig) (s : Session ω) :
    ((memory.save config >>= fun _ => memory.get config.customerId : Run ω (Option Text)).outcome
      s).1 = .ok (some config.stored) := by
  exact congrArg Except.ok (OrderedMap.lookup?_put_self _ _ s.shelf)

end ConfigStore

/-- A dataset of the warehouse. -/
structure Dataset where
  project : Text
  name : Text

namespace Dataset

/-- The full name of a table. -/
def table (dataset : Dataset) (name : Text) : Text :=
  Text.join "." [dataset.project, dataset.name, name]

/-- The table that holds configurations. -/
def configTable (dataset : Dataset) : Text := dataset.table "tracking_configs"

/-- The table that holds the event log. -/
def logTable (dataset : Dataset) : Text := dataset.table "event_logs"

end Dataset

namespace Warehouse

variable {ω : Type}

/-- Make a call over a channel, opening its connection first. In an outage the call is made in
vain. -/
def call (dataset : Dataset) (channel : Channel) (request : WarehouseCall) : Run ω Unit := do
  Run.ensureOpen channel (.warehouse (.connect dataset.project))
  Run.record (.warehouse request)
  match (← Run.session).warehouse.outage with
  | some detail => throw (.outside detail)
  | none => return ()

/-- The name of a table inside a statement. -/
def quotedTable (table : Text) : Text := "\x60" ++ table ++ "\x60"

/-- The statement that makes the table of configurations. -/
def makeConfigTable (table : Text) : Text :=
  "CREATE TABLE IF NOT EXISTS " ++ quotedTable table ++ " ( customer_id STRING NOT NULL," ++
    " config_json STRING NOT NULL, version STRING," ++
    " updated_at TIMESTAMP DEFAULT CURRENT_TIMESTAMP() )"

/-- The statement that makes the table of the event log. -/
def makeLogTable (table : Text) : Text :=
  "CREATE TABLE IF NOT EXISTS " ++ quotedTable table ++ " ( customer_id STRING NOT NULL," ++
    " event_name STRING NOT NULL, platforms_sent STRING, sent_at TIMESTAMP NOT NULL )"

/-- The statement that reads the configuration of a customer. -/
def readConfig (table : Text) : Text :=
  "SELECT config_json FROM " ++ quotedTable table ++ " WHERE customer_id = @customer_id LIMIT 1"

/-- The statement that replaces the configuration of a customer. -/
def replaceConfig (table : Text) : Text :=
  "MERGE " ++ quotedTable table ++ " AS target USING (SELECT @customer_id AS customer_id)" ++
    " AS source ON target.customer_id = source.customer_id WHEN MATCHED THEN UPDATE SET" ++
    " config_json = @config_json, version = @version, updated_at = @updated_at" ++
    " WHEN NOT MATCHED THEN INSERT (customer_id, config_json, version, updated_at)" ++
    " VALUES (@customer_id, @config_json, @version, @updated_at)"

/-- A customer under whom the table of configurations can keep a row. -/
def keyOf (customer : Value) : Except Fault Value :=
  if customer.isKey then .ok customer else .error (.notKey customer.kind)

/-- Make the table of configurations unless it exists. -/
def ensureConfigTable (dataset : Dataset) : Run ω Unit := do
  call dataset .store (.query (makeConfigTable dataset.configTable) none)
  Run.log .info .storage ("Ensured tracking configs table exists: " ++ dataset.configTable)

/-- Make the table of the event log unless it exists. -/
def ensureLogTable (dataset : Dataset) : Run ω Unit := do
  call dataset .eventLog (.query (makeLogTable dataset.logTable) none)
  Run.log .info .storage ("Ensured event logs table exists: " ++ dataset.logTable)

/-- Read the configuration of a customer. -/
def getConfig (dataset : Dataset) (customer : Value) : Run ω (Option Text) := do
  call dataset .store
    (.query (readConfig dataset.configTable) (some [⟨"customer_id", "STRING", customer⟩]))
  let key ← Run.ofExcept (keyOf customer)
  return OrderedMap.lookup? (← Run.session).warehouse.configs key

/-- Replace the configuration of a customer. -/
def saveConfig (dataset : Dataset) (config : CustomerConfig) : Run ω Unit := do
  let parameters : List QueryParameter := [
    ⟨"customer_id", "STRING", config.customerId⟩,
    ⟨"config_json", "STRING", .string config.stored⟩,
    ⟨"version", "STRING", config.version⟩,
    ⟨"updated_at", "TIMESTAMP", .string (← Run.clock).text⟩]
  call dataset .store (.query (replaceConfig dataset.configTable) (some parameters))
  let key ← Run.ofExcept (keyOf config.customerId)
  modify fun s =>
    { s with
      warehouse :=
        { s.warehouse with configs := OrderedMap.put s.warehouse.configs key config.stored } }
  Run.log .info .storage ("Saved tracking config for customer: " ++ config.customerId.text)

/-- Add an entry to the event log. -/
def insertEntry (dataset : Dataset) (entry : LogEntry) : Run ω Unit := do
  call dataset .eventLog (.insert dataset.logTable [entry.row])
  let report := (← Run.session).warehouse.insertReport
  if report.isTruthy then
    throw (.tracking (.logRefused
      [.string ("Failed to insert event log row: " ++ report.text)]))

end Warehouse

/-- The store in a dataset of the warehouse. -/
def ConfigStore.warehouse {ω : Type} (dataset : Dataset) : ConfigStore ω :=
  { get := Warehouse.getConfig dataset
    save := Warehouse.saveConfig dataset }

/-- The event log in a dataset of the warehouse. -/
def EventLog.warehouse {ω : Type} (dataset : Dataset) : EventLog ω :=
  { write := Warehouse.insertEntry dataset }

end ConversionRelay
