import ConversionRelay.Number.Decimal
import ConversionRelay.Text.Quoted
/-!
What keeps a text from being an address.

The parts of an address are checked one after the other, and the first flaw is the one that is told.
-/
namespace ConversionRelay

/-- The parts of an address whose length is limited. -/
inductive AddressPart where
  | path
  | query
  deriving DecidableEq, Repr

/-- The name of a part. -/
def AddressPart.name : AddressPart → Text
  | path => "path"
  | query => "query"

/-- Why a text is no address. -/
inductive AddressFlaw where
  | tooLong
  /-- It holds a control character of ASCII. -/
  | control (char : CodePoint) (position : Nat)
  /-- Its host has the shape of an address of four numbers but is none. -/
  | notIPv4 (host : Text)
  /-- Its host stands in brackets but is no address of eight groups. -/
  | notIPv6 (host : Text)
  /-- Its host is no name that can be spelled in ASCII. -/
  | notName (host : Text)
  /-- What stands behind its host is no number. -/
  | badPort (text : Text)
  /-- Its path begins like an authority although it has none. -/
  | authorityInPath
  | partTooLong (part : AddressPart)
  deriving DecidableEq, Repr

/-- The wording of a flaw. -/
def AddressFlaw.message : AddressFlaw → Text
  | tooLong => "URL too long"
  | control char position =>
    "Invalid non-printable ASCII character in URL, " ++ Text.quoted [char] ++ " at position " ++
      Decimal.ofNat position ++ "."
  | notIPv4 host => "Invalid IPv4 address: " ++ Text.quoted host
  | notIPv6 host => "Invalid IPv6 address: " ++ Text.quoted host
  | notName host => "Invalid IDNA hostname: " ++ Text.quoted host
  | badPort text => "Invalid port: " ++ Text.quoted text
  | authorityInPath => "Relative URLs cannot have a path starting with '//'"
  | partTooLong part => "URL component '" ++ part.name ++ "' too long"

end ConversionRelay
