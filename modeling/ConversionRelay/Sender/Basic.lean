import ConversionRelay.Config.Basic
import ConversionRelay.Session
/-!
Senders: what brings the fields of an event to a platform.

A sender first shapes the fields into a payload and then delivers the payload. Either step may fail;
a delivery that is refused does not fail but says why. Whoever declares a kind of sender has to name
its platform, unless the kind only serves as a basis for others.

Main statement: a declaration that names its platform is never refused
(`SenderDeclaration.problem?_of_platform`).
-/
namespace ConversionRelay

/-- What delivering a payload came to. -/
structure SendOutcome where
  success : Bool
  message : Text
  error : Option Text
  deriving DecidableEq, Repr

/-- A sender. Both steps work in a session. -/
structure Sender (ω : Type) where
  /-- Shape the fields of an event of a name into a payload. -/
  build : (event : Value) → (fields : Fields) → Run ω Fields
  /-- Deliver a payload. -/
  send : (payload : Value) → Run ω SendOutcome

/-- What the events of a platform are called when they are delivered. -/
def Platform.label : Platform → Text
  | facebook => "Facebook CAPI event"
  | ga4 => "GA4 event"
  | googleAds => "Google Ads conversion"

/-- A delivery that was taken. -/
def SendOutcome.taken (platform : Platform) : SendOutcome :=
  ⟨true, platform.label ++ " sent", none⟩

/-- The fault of a delivery for which the platform could not be reached. -/
def SendOutcome.unreachable (platform : Platform) (detail : Text) : Fault :=
  .tracking (.sendFailed (.string platform.key) (.string ("Network error: " ++ detail)))

/-- Give a value that has no currency the default one. -/
def withCurrency (fields : Fields) : Fields :=
  if OrderedMap.hasKey fields "value" then
    OrderedMap.putIfAbsent fields "currency" (.string defaultCurrency)
  else fields

/-- A kind of sender that is declared, on the basis of another. -/
structure SenderDeclaration where
  name : Text
  /-- Whether the kind only serves as a basis for others. -/
  basis : Bool
  /-- The platform of the kind that this one is based on. -/
  inherited : Option Text
  /-- The platform that the declaration names, if it says anything about it. -/
  own : Option Value

namespace SenderDeclaration

/-- The platform of a declared kind, null if it has none. -/
def platform (declaration : SenderDeclaration) : Value :=
  declaration.own.getD (.ofText declaration.inherited)

/-- Why a declaration is refused, if it is. -/
def problem? (declaration : SenderDeclaration) : Option Text :=
  if declaration.basis || declaration.platform.isTruthy then none
  else some (declaration.name ++ " must define a 'platform' class attribute")

/-- A declaration that names its platform is never refused. -/
theorem problem?_of_platform {declaration : SenderDeclaration}
    (named : declaration.platform.isTruthy = true) : declaration.problem? = none := by
  simp [problem?, named]

end SenderDeclaration

end ConversionRelay
