import ConversionRelay.Address.Flaw
import ConversionRelay.Json.Error
import ConversionRelay.Text.Encoding
import ConversionRelay.Text.Numeral
import ConversionRelay.Value.Text
/-!
What can go wrong, told apart by cause.

A tracking fault is one that a caller of the engine is meant to handle: it has a wording that is
answered to clients. A configuration problem says which rule of the wire format a document breaks.
All other faults are mismatches between values, or come from the surroundings: files, the network,
the warehouse.
-/
namespace ConversionRelay

/-- Faults of tracking itself. -/
inductive TrackingFault where
  /-- A fault with free details. -/
  | general (details : List Value)
  /-- No configuration is known for the customer. -/
  | configNotFound (customer : Value)
  /-- The configuration of the customer does not mention the event. -/
  | eventNotConfigured (customer event : Value)
  /-- A platform could not be reached. -/
  | sendFailed (platform detail : Value)
  /-- An entry could not be added to the event log. -/
  | logRefused (details : List Value)

/-- Details as one text: a single one stands alone, several are listed in parentheses. -/
def detailsText : List Value → Text
  | [] => ""
  | [detail] => detail.text
  | details => "(" ++ Text.join ", " (details.map Value.literal) ++ ")"

/-- The wording of a tracking fault. -/
def TrackingFault.text : TrackingFault → Text
  | general details => detailsText details
  | configNotFound customer => "No config found for customer: " ++ customer.text
  | eventNotConfigured _ event => "No config found for event: " ++ event.text
  | sendFailed platform detail => platform.text ++ ": " ++ detail.text
  | logRefused details => detailsText details

/-- What a tracking fault tells about its circumstances. -/
def TrackingFault.circumstances : TrackingFault → Fields
  | configNotFound customer => [("customer_id", customer)]
  | eventNotConfigured customer event => [("customer_id", customer), ("event_name", event)]
  | sendFailed platform _ => [("platform", platform)]
  | _ => []

/-- The rules of the wire format that a configuration document may break. -/
inductive ConfigProblem where
  | notObject (kind : Kind)
  | missingCustomer
  | eventsNotList
  | missingEventName
  | mappingsNotObject (event : Value)
  | mappingNotObject (platform : Text)
  | unreadable (problem : Json.ParseError)

/-- The wording of a configuration problem. -/
def ConfigProblem.message : ConfigProblem → Text
  | notObject kind => "Config must be an object, got " ++ kind.word
  | missingCustomer => "Missing required field: customerId"
  | eventsNotList => "Invalid events: expected a list"
  | missingEventName => "Missing required field: eventName"
  | mappingsNotObject event => "Invalid platformMappings for event: " ++ event.text
  | mappingNotObject platform => "Invalid mapping for platform: " ++ platform
  | unreadable problem => "Invalid config JSON: " ++ problem.message

/-- Why a path of the file tree cannot be used. -/
inductive FileObstacle where
  | missing
  | directory
  | notDirectory
  | exists
  | tooLong
  | badName
  /-- Its name has no bytes. -/
  | notEncodable
  /-- Too many of the directories above are missing. -/
  | tooDeep
  deriving DecidableEq, Repr

/-- Why an operation did not return. -/
inductive Fault where
  | tracking (fault : TrackingFault)
  | config (problem : ConfigProblem)
  /-- An incoming event has no name. -/
  | eventWithoutName
  /-- The settings name no project. -/
  | projectMissing
  /-- A setting that has to be a number is not one. -/
  | notNumber (text : Text)
  /-- A setting has a value of the wrong type. -/
  | badSetting
  /-- A segment of digits has no value as an index. -/
  | notIndex (segment : Text)
  /-- An index has too many digits, which are counted. -/
  | indexTooLong (digits : Nat)
  /-- An item that has to be a pair has another length. -/
  | notPair (position length : Nat)
  /-- An item that has to be a pair is not a sequence. -/
  | notSequence (position : Nat)
  /-- A document to be fetched does not exist. -/
  | fileNotFound (path : Text)
  | file (obstacle : FileObstacle)
  | json (problem : Json.ReadError)
  /-- Bytes do not spell a text. -/
  | undecodable (problem : Text.DecodeProblem)
  /-- A text has no bytes. -/
  | unencodable (problem : Text.EncodeProblem)
  /-- A request body holds a number that is not finite. -/
  | notFinite
  /-- A target is no address. -/
  | notAddress (flaw : AddressFlaw)
  /-- A value does not have what is asked of it. -/
  | lacks (kind : Kind) (member : Text)
  /-- A value is not a collection. -/
  | notIterable (kind : Kind)
  /-- A value cannot serve as a key. -/
  | notKey (kind : Kind)
  /-- A value is not a text. -/
  | notText (kind : Kind)
  /-- An object lacks a field that is asked for. -/
  | absentField (name : Text)
  /-- Something outside the program failed. -/
  | outside (detail : Text)

/-- The most characters of a text that a message about an index quotes. -/
def quotedIndexWidth : Nat := 200

/-- The wording of an obstacle. -/
def FileObstacle.message : FileObstacle → Text
  | .missing => "No such file or directory"
  | .directory => "Is a directory"
  | .notDirectory => "Not a directory"
  | .exists => "File exists"
  | .tooLong => "File name too long"
  | .badName => "embedded null byte"
  | .notEncodable => "surrogates not allowed"
  | .tooDeep => "maximum recursion depth exceeded"

/-- The wording of a fault. -/
def Fault.text : Fault → Text
  | tracking fault => fault.text
  | config problem => problem.message
  | eventWithoutName => "Missing required field: eventName"
  | projectMissing => "GCP_PROJECT_ID or GROWTNAV_PROJECT_ID environment variable required"
  | notNumber text => "could not convert string to float: " ++ Text.quoted text
  | badSetting => "invalid settings"
  | notIndex segment =>
    "invalid literal for int() with base 10: " ++ (Text.quoted segment).take quotedIndexWidth
  | indexTooLong digits => Text.tooManyDigitsMessage digits
  | notPair position length =>
    "dictionary update sequence element #" ++ Decimal.ofNat position ++ " has length " ++
      Decimal.ofNat length ++ "; 2 is required"
  | notSequence position =>
    "cannot convert dictionary update sequence element #" ++ Decimal.ofNat position ++
      " to a sequence"
  | fileNotFound path => "File not found: " ++ path
  | file obstacle => obstacle.message
  | json problem => problem.message
  | undecodable problem => problem.message
  | unencodable problem => problem.message
  | notFinite => "Out of range float values are not JSON compliant"
  | notAddress flaw => flaw.message
  | lacks kind member => "'" ++ kind.word ++ "' object has no attribute '" ++ member ++ "'"
  | notIterable kind => "'" ++ kind.word ++ "' object is not iterable"
  | notKey kind => "unhashable type: '" ++ kind.word ++ "'"
  | notText kind => "the JSON object must be str, bytes or bytearray, not " ++ kind.word
  | absentField name => Text.quoted name
  | outside detail => detail

end ConversionRelay
