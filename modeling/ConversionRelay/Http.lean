import ConversionRelay.Fault
import ConversionRelay.Json.Printer
/-!
Requests over HTTP and their replies.

A request posts a JSON body, which is sent as short as can be and in UTF-8. So a body is refused if
it holds a number that is not finite, for which JSON has no text, or a text that has no bytes.

Main statement: a request that is made carries the body it was made for (`body_of_posting`).
-/
namespace ConversionRelay

/-- A request, which always posts a JSON body. -/
structure HttpRequest where
  address : Text
  body : Value

/-- What comes back for a request. -/
inductive HttpReply where
  | response (status : Int) (text : Text)
  /-- The transport failed: no connection, no answer in time, or an answer out of order. -/
  | transportFailure (detail : Text)
  /-- Something else failed. -/
  | otherFailure (detail : Text)

/-- A connection to a service, with the time that a request may take. -/
structure HttpClient where
  base : Option Text
  timeout : Value

/-- Whether a status means that the request was accepted. -/
def isAccepted (status : Int) : Bool := 200 ≤ status && status ≤ 299

namespace HttpRequest

/-- Refuse a body that cannot be sent. -/
def checkBody (body : Value) : Except Fault Unit :=
  if Json.allFinite body then
    match Text.encodeUtf8 (Json.print .compact body) with
    | .ok _ => .ok ()
    | .error problem => .error (.unencodable problem)
  else .error .notFinite

/-- The request that posts a body. -/
def posting (address : Text) (body : Value) : Except Fault HttpRequest :=
  (checkBody body).map fun _ => ⟨address, body⟩

/-- A request that is made carries the body it was made for. -/
theorem body_of_posting {address : Text} {body : Value} {request : HttpRequest}
    (h : posting address body = .ok request) : request.body = body := by
  unfold posting at h
  cases checked : checkBody body with
  | error fault => rw [checked] at h; cases h
  | ok _ => rw [checked] at h; cases h; rfl

end HttpRequest

end ConversionRelay
