import ConversionRelay.Container.Analysis
import ConversionRelay.Container.Compilation
import ConversionRelay.Container.CoverageTable
import ConversionRelay.Engine
/-!
A walk through the whole program on one container.

An export is compiled for a customer, the configuration goes to the store in memory, and a purchase,
a lead and an event that no configuration knows are processed with the log sender of every platform.
What is seen on the way is told line by line; the event log tells its entries there, too.

Main statement: telling a line changes nothing but what has been told (`tell_run`).
-/
namespace ConversionRelay.Walkthrough

/-- The lines that have been told. -/
abbrev Transcript := List Text

/-- Tell a line. -/
def tell (line : Text) : Run Transcript Unit :=
  modify fun s => { s with party := s.party ++ [line] }

/-- The customer that the container is compiled for. -/
def customer : Value := .string "demo_customer"

section Samples

/-- A parameter of a tag or of a variable. -/
def parameter (key value : Text) : Value :=
  .object [("key", .string key), ("value", .string value)]

/-- A tag that holds a piece of markup. -/
def markupTag (name markup : Text) : Value :=
  .object [
    ("name", .string name),
    ("type", .string TagType.customHtml.name),
    ("parameter", .array [parameter "html" markup])]

/-- A variable that is bound to a path. -/
def boundVariable (name path : Text) : Value :=
  .object [("name", .string name), ("parameter", .array [parameter Bindings.pathParameter path])]

/-- The container that is used if none is given. -/
def sampleExport : Value :=
  .object [(Export.wrapperKey, .object [
    ("container", .object [("publicId", .string "GTM-DEMO")]),
    ("tag", .array [
      markupTag "FB - Purchase"
        ("fbq('track','Purchase',\x7bvalue:\x7b\x7bPurchase Value\x7d\x7d," ++
          "currency:'\x7b\x7bCurrency Code\x7d\x7d'\x7d)"),
      markupTag "FB - Lead" "fbq('track','Lead',\x7bem:'\x7b\x7bEmail\x7d\x7d'\x7d)"]),
    ("variable", .array [
      boundVariable "Purchase Value" "ecommerce.total",
      boundVariable "Currency Code" "ecommerce.currency",
      boundVariable "Email" "user.email"])])]

/-- The branch of a data layer that holds the email of a user. -/
def userLayer (email : Text) : Text × Value :=
  ("user", .object [("email", .string email)])

/-- A purchase of one product. -/
def samplePurchase : EventData :=
  { name := .string "purchase"
    layer := .object [
      ("event", .string "purchase"),
      ("ecommerce", .object [
        ("total", .double (Binary64.ofInt 150)),
        ("currency", .string "EUR"),
        ("items", .array [.object [
          ("item_id", .string "product-123"), ("item_name", .string "Test Product")]])]),
      userLayer "buyer@example.com"] }

/-- The events that are processed. -/
def sampleEvents : List EventData := [
  samplePurchase,
  ⟨.string "lead", .object [userLayer "lead@example.com"]⟩,
  ⟨.string "refund", .object []⟩]

end Samples

/-- A heading between two rules. -/
def tellHeading (heading : Text) : Run Transcript Unit :=
  let rule : Text := List.replicate 60 '='
  [rule, heading, rule].forM tell

/-- The texts of values with commas between, or a remark that there are none. -/
def listed (values : List Value) : Text :=
  match Text.join ", " (values.map Value.text) with
  | [] => "(none)"
  | names => names

/-- Compile an export and tell what was found. -/
def compile (files : FileTree) (source : ExportSource) : Run Transcript CustomerConfig := do
  tellHeading "Compiling GTM export"
  let result ← Run.ofLogged (Compilation.ofSource files source customer)
  tell ""
  tell ("Export format:          " ++ result.format.name)
  tell ("Referenced variables:   " ++ Decimal.ofNat result.referenced.length)
  tell ("Macro definitions:      " ++ Decimal.ofNat result.bindings.length)
  tell ("Events detected:        " ++ listed result.config.eventNames)
  tell ""
  tell "Variable coverage:"
  tell result.coverage.table
  return result.config

/-- An event log that tells its entries. -/
def log : EventLog Transcript :=
  { write := fun entry => tell ("  [event log] " ++ Json.print .line (.object entry.row)) }

/-- The engine that processes the events. -/
def engine : Engine Transcript :=
  { store := .memory
    log := some log
    senders := SenderKinds.standard.senders
    hook := none }

/-- The line that the result of a platform makes. -/
def resultLine (platform : Text) (record : Fields) : Text :=
  let status : Text := if (Value.fieldOf record "success").isTruthy then "ok" else "FAILED"
  let columns := [
    Text.padRight 12 platform,
    Text.padRight 7 status,
    (Value.fieldOf record "message").text]
  "  " ++ Text.join " " columns

/-- Process an event and tell the result of every platform, or why there is none. -/
def processEvent (event : EventData) : Run Transcript Unit := do
  tell ""
  tell (event.name.text ++ ":")
  match ← Run.attempt (engine.process customer event) with
  | .ok results => results.forM fun result => tell (resultLine result.1 result.2)
  | .error (.tracking fault) => tell ("  error: " ++ fault.text)
  | .error other => throw other

/-- Process the events with a configuration. -/
def processEvents (config : CustomerConfig) : Run Transcript Unit := do
  tell ""
  tellHeading "Processing events"
  engine.store.save config
  sampleEvents.forM processEvent

/-- The whole walk. -/
def walk (files : FileTree) (source : Option ExportSource) : Run Transcript Unit := do
  processEvents (← compile files (source.getD (.document sampleExport)))

/-- Telling a line changes nothing but what has been told. -/
theorem tell_run (line : Text) (s : Session Transcript) :
    (tell line).outcome s = (.ok (), { s with party := s.party ++ [line] }) := rfl

end ConversionRelay.Walkthrough
