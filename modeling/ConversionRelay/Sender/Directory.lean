import ConversionRelay.Sender.Log
import ConversionRelay.Sender.Measurement
import ConversionRelay.Sender.Meta
import ConversionRelay.Settings
/-!
Which sender serves which platform.

Every platform has a log sender. Where the settings carry the credentials of a platform, its events
are sent over the network instead. Google Ads is always served by its log sender.

Main statement: every platform is served, whatever the settings are
(`SenderKinds.hasKey_ofSettings`).
-/
namespace ConversionRelay

/-- The kinds of senders that the program brings along. -/
inductive SenderKind where
  | log (platform : Platform)
  | conversions (account : MetaAccount)
  | measurement (account : MeasurementAccount)

namespace SenderKind

/-- The platform that a sender serves. -/
def platform : SenderKind → Platform
  | log platform => platform
  | conversions _ => .facebook
  | measurement _ => .ga4

/-- Where a sender sends requests, if it does. -/
def endpoint? : SenderKind → Option Text
  | log _ => none
  | conversions account => some (MetaSender.endpoint account)
  | measurement account => some (MeasurementSender.endpoint account)

/-- A sender of a kind, with a channel of its own. -/
def sender {ω : Type} (kind : SenderKind) (channel : Channel) : Sender ω :=
  match kind with
  | log platform => LogSender.sender platform
  | conversions account => MetaSender.sender account channel
  | measurement account => MeasurementSender.sender account channel

end SenderKind

/-- Kinds of senders by the key of the platform that they serve. -/
abbrev SenderKinds := OrderedMap Text SenderKind

namespace SenderKinds

/-- The kind that serves Facebook. -/
def forFacebook (settings : Settings) : SenderKind :=
  match settings.metaCredentials? with
  | some (token, pixel) =>
    .conversions {
      token := .string token
      pixel
      version := settings.metaVersion
      timeout := .double settings.timeout }
  | none => .log .facebook

/-- The kind that serves GA4. -/
def forGa4 (settings : Settings) : SenderKind :=
  match settings.ga4Credentials? with
  | some (measurementId, secret) =>
    .measurement {
      measurementId
      secret
      debug := settings.ga4Debug
      timeout := .double settings.timeout }
  | none => .log .ga4

/-- The senders that settings ask for. -/
def ofSettings (settings : Settings) : SenderKinds := [
  (Platform.facebook.key, forFacebook settings),
  (Platform.ga4.key, forGa4 settings),
  (Platform.googleAds.key, .log .googleAds)]

/-- The senders that are used when nothing is set. -/
def standard : SenderKinds := ofSettings .standard

end SenderKinds

/-- Senders by the key of the platform that they serve. -/
abbrev Senders (ω : Type) := OrderedMap Text (Sender ω)

/-- Senders of the given kinds, each with a channel of its own. -/
def SenderKinds.senders {ω : Type} (kinds : SenderKinds) : Senders ω :=
  kinds.map fun entry => (entry.1, entry.2.sender (.sender entry.1))

/-- Every platform is served, whatever the settings are. -/
theorem SenderKinds.hasKey_ofSettings (settings : Settings) (platform : Platform) :
    OrderedMap.hasKey (ofSettings settings) platform.key = true := by
  cases platform <;> rfl

end ConversionRelay
