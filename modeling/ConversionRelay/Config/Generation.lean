import ConversionRelay.Config.Basic
import ConversionRelay.Container.Binding
import ConversionRelay.Log
import ConversionRelay.Text.Case
/-!
Generating a configuration from the variables of a container.

Six signals are looked for among the bound variables by well-known names, in any case. A signal goes
to the first of its names that is bound, and of several variables with that name to the one bound
first. Three events follow from the signals: a purchase from a value, a lead from an email or a
phone, and a view of an item from an identifier or a name of a product.
-/
namespace ConversionRelay

open Text

namespace Bindings

/-- The path of the first variable whose name is the given one in any case. Only texts have a case,
so a name of another kind cannot be passed. -/
def pathOf? (wanted : Text) : Bindings → Except Fault (Option Value)
  | [] => .ok none
  | (.string name, path) :: rest =>
    if lower name == wanted then .ok (some path) else pathOf? wanted rest
  | (other, _) :: _ => .error (.lacks other.kind "lower")

/-- The path of the first of several names that is bound, in any case. -/
def firstPathOf? (bindings : Bindings) : List Text → Except Fault (Option Value)
  | [] => .ok none
  | candidate :: others =>
    match pathOf? (lower candidate) bindings with
    | .error fault => .error fault
    | .ok (some path) => .ok (some path)
    | .ok none => firstPathOf? bindings others

end Bindings

/-- The things that variables are recognised to stand for. -/
inductive Signal where
  | amount
  | currency
  | email
  | phone
  | productId
  | productName
  deriving DecidableEq, Repr

/-- The names of variables that stand for a signal, the most telling first. -/
def Signal.candidates : Signal → List Text
  | amount => ["purchase value", "order total", "revenue"]
  | currency => ["currency code", "currencycode"]
  | email => ["email address", "email", "emailaddress"]
  | phone => ["phone number", "phone", "phonenumber"]
  | productId => ["product id", "productid", "item_id"]
  | productName => ["product name", "productname", "item_name"]

/-- The path of each signal; null for a signal that no variable stands for. -/
structure Signals where
  amount : Value
  currency : Value
  email : Value
  phone : Value
  productId : Value
  productName : Value

namespace Signals

/-- The path of one signal. -/
def pathOf (bindings : Bindings) (signal : Signal) : Except Fault Value :=
  (bindings.firstPathOf? signal.candidates).map Value.ofOption

/-- Look for every signal. -/
def ofBindings (bindings : Bindings) : Except Fault Signals := do
  let amount ← pathOf bindings .amount
  let currency ← pathOf bindings .currency
  let email ← pathOf bindings .email
  let phone ← pathOf bindings .phone
  let productId ← pathOf bindings .productId
  let productName ← pathOf bindings .productName
  return { amount, currency, email, phone, productId, productName }

/-- A purchase: the value for every platform, with its currency where a platform takes one. -/
def purchase (signals : Signals) : EventConfig :=
  let priced : Fields := [
    ("value_path", signals.amount),
    ("currency_path", signals.currency.orElse (.string defaultCurrency))]
  { name := .string "purchase"
    mappings := [
      (Platform.facebook.key, priced),
      (Platform.ga4.key, priced),
      (Platform.googleAds.key, [("conversion_value", signals.amount)])] }

/-- A lead: email and phone, either of which may be empty. -/
def lead (signals : Signals) : EventConfig :=
  let contact : Fields := [
    ("email_path", signals.email.orElse (.string "")),
    ("phone_path", signals.phone.orElse (.string ""))]
  { name := .string "lead"
    mappings := [(Platform.facebook.key, contact), (Platform.ga4.key, contact)] }

/-- A view of an item: its identifier, without which no platform is told, and its name where a
platform takes one. -/
def viewItem (signals : Signals) : EventConfig :=
  let identified : Fields := [("item_id_path", signals.productId)]
  let named : Fields :=
    if signals.productName.isTruthy then [("item_name_path", signals.productName)] else []
  { name := .string "view_item"
    mappings :=
      if signals.productId.isTruthy then
        [(Platform.facebook.key, identified), (Platform.ga4.key, identified ++ named)]
      else [] }

/-- The events that the signals give rise to. -/
def events (signals : Signals) : List EventConfig :=
  (if signals.amount.isTruthy then [signals.purchase] else []) ++
  (if signals.email.isTruthy || signals.phone.isTruthy then [signals.lead] else []) ++
  (if signals.productId.isTruthy || signals.productName.isTruthy then [signals.viewItem] else [])

end Signals

namespace CustomerConfig

/-- The configuration of a customer with the given events, under the current version. The container
carries the identifier of its customer. -/
def ofEvents (customer : Value) (events : List EventConfig) : CustomerConfig :=
  { customerId := customer
    containerId := customer
    events
    version := .string currentVersion }

/-- Generate the configuration of a customer. -/
def generate (customer : Value) (bindings : Bindings) : Logged CustomerConfig := do
  let signals ← Logged.ofExcept (Signals.ofBindings bindings)
  let events := signals.events
  Logged.write .info .generation <|
    "Generated config for " ++ customer.text ++ ": " ++ Decimal.ofNat events.length ++
      " event(s) from " ++ Decimal.ofNat bindings.length ++ " macro definition(s)"
  return ofEvents customer events

end CustomerConfig

end ConversionRelay
