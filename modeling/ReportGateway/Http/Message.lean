import ReportGateway.Http.Headers
import ReportGateway.Url.Basic

/-!
Messages between a client and a service, and the network that carries them. The network is a
function from requests to what comes of them: nothing listens at the place a request names, or the
service takes the request but gives no answer, or it answers with a response whose body arrives
complete or breaks off.
-/

namespace ReportGateway.Http

/-- A request to a service. -/
structure Request where
  method : String
  url : Url
  headers : Headers
  body : ByteArray

/-- The request for what a URL names. -/
def Request.get (url : Url) : Request := { method := "GET", url, headers := [], body := .empty }

/-- What a service answers. -/
structure Response where
  status : Nat
  headers : Headers
  body : ByteArray

/-- The classes of statuses that say that a request did what it asked for. -/
def isSuccess (status : Nat) : Bool := 200 ≤ status && status < 300

/-- What comes of a request: no one there, no answer, or a response. -/
inductive Reply
  | unreachable
  | silent
  | answer (response : Response) (complete : Bool)

/-- Whether a service received the request. -/
def Reply.isReceived : Reply → Bool
  | .unreachable => false
  | .silent => true
  | .answer _ _ => true

/-- All services at one moment. -/
abbrev Network : Type := Request → Reply

end ReportGateway.Http
