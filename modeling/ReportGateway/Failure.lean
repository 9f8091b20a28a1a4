import ReportGateway.Http.Message
import ReportGateway.Json.Value
import ReportGateway.Service

/-!
How a request to the gateway can fail, and what the client is told. Every failure has a status; all
but one have a code and a text as well. The exception is an error response of the results store: it
is handed on with its own status and body.
-/

namespace ReportGateway

open Json (Value)

/-- Why a request fails. -/
inductive Failure
  | unauthorized
  | unavailable (service : Service)
  | contentTimeout
  | notFound (detail : String)
  | permissionDenied (detail : String)
  /-- Something is wrong inside the gateway; what it is, clients are not told. -/
  | internal (detail : String)
  | badRequest (detail : String)
  /-- The results store answered with this status and body, which are handed on. -/
  | relayed (status : Nat) (body : ByteArray)

namespace Failure

/-- A request that cannot be written. -/
def unwritable : Failure := .internal "the request cannot be written"

/-- What is said about a failure inside the gateway. -/
def message : Failure → String
  | .unauthorized => "Authentication required"
  | .unavailable s => s.title ++ " is unavailable"
  | .contentTimeout => "Rule content is not available in time"
  | .notFound detail => "Not found: " ++ detail
  | .permissionDenied detail => "Permission denied: " ++ detail
  | .internal detail => "Internal error: " ++ detail
  | .badRequest detail => "Invalid request: " ++ detail
  | .relayed status _ => "Upstream returned " ++ Decimal.text status

/-- The statuses that a response can have; any other becomes that of a bad gateway. -/
def passableStatus (status : Nat) : Nat :=
  if 100 ≤ status ∧ status < 1000 then status else 502

/-- A response with a value as its body. -/
def jsonResponse (status : Nat) (v : Value) : Http.Response :=
  { status, headers := [("content-type", "application/json")], body := v.body }

/-- A response that names a failure by a code and describes it. -/
def notice (status : Nat) (code text : String) : Http.Response :=
  jsonResponse status <| .object [
    ("status", .string "error"),
    ("error", .object [("code", .string code), ("message", .string text)])]

/-- The response to a request that failed. -/
def response : Failure → Http.Response
  | .unauthorized => notice 401 "AUTH_REQUIRED" "Authentication required"
  | .unavailable s => notice 503 s.unavailableCode (s.title ++ " is unreachable")
  | .contentTimeout => notice 503 "CONTENT_TIMEOUT" "Rule content directory is not available yet"
  | .notFound detail => notice 404 "NOT_FOUND" detail
  | .permissionDenied detail => notice 403 "PERMISSION_DENIED" detail
  | .internal _ => notice 500 "INTERNAL" "An internal error occurred"
  | .badRequest detail => notice 400 "BAD_REQUEST" detail
  | .relayed status body =>
    { status := passableStatus status
      headers := [("content-type", "application/json; charset=utf-8")]
      body }

end Failure

end ReportGateway
