import ReportGateway.Action
import ReportGateway.Text.Base64
import ReportGateway.Url.Reader

/-!
Sending requests. Credentials in the URL become a header. Redirects are followed, at most ten of
them: after 301 and 302 a `POST` goes on as a `GET`, after 303 everything but `HEAD` does, and after
307 and 308 the request stays as it is. What authorizes a request is not shown to another host. A
redirect that names no place that can be written as a target is no redirect.
-/

namespace ReportGateway.Http

/-- What came of sending a request. -/
inductive Outcome
  /-- There is no such request in this protocol, so nothing was sent. -/
  | unbuildable
  /-- No response came. -/
  | failed
  | received (response : Response) (complete : Bool)

namespace Client

/-- The characters that a host may have in a request target. -/
def isHostChar (c : Char) : Bool := c.isAlphanum || "!$&'()*+,-.:;=[]_~".toList.contains c

/-- The length of the longest target that is written. -/
def targetLimit : Nat := 65534

/-- Whether a URL can be written as the target of a request. -/
def isTarget (u : Url) : Bool :=
  (u.host.all fun h => h.text.toList.all isHostChar) && u.text.utf8ByteSize ≤ targetLimit

/-- Whether a URL belongs to this protocol. -/
def isSendable (u : Url) : Bool := u.scheme = "http" || u.scheme = "https"

/-- The header value for a user name and password. -/
def basicCredentials (user : String) (password : Option String) : String :=
  "Basic " ++ Base64.encodeText (user ++ ":" ++ password.getD "")

/-- The user name and password of a URL, when it has them. -/
def credentials? (u : Url) : Option (String × Option String) := do
  let user ← Utf8.decode? (Url.Percent.decode u.username)
  let password := u.password.bind fun p => Utf8.decode? (Url.Percent.decode p)
  if user ≠ "" ∨ password.isSome then some (user, password) else none

/-- Moves the credentials of the URL to a header, unless the request has one. -/
def authorize (r : Request) : Request :=
  match credentials? r.url with
  | none => r
  | some (user, password) =>
    { r with
      url := { r.url with username := "", password := none }
      headers :=
        if (r.headers.first? "authorization").isSome then r.headers
        else r.headers.add "authorization" (basicCredentials user password) }

/-- How many redirects are followed. -/
def redirectLimit : Nat := 10

/-- The headers that describe a body. -/
def bodyHeaders : List String :=
  ["transfer-encoding", "content-encoding", "content-type", "content-length"]

/-- The headers that authorize a request. -/
def sensitiveHeaders : List String :=
  ["authorization", "cookie", "cookie2", "proxy-authorization", "www-authenticate"]

/-- The request without its body. -/
def bare (r : Request) : Request :=
  { r with headers := r.headers.without bodyHeaders, body := .empty }

/-- The request without its body, as a `GET`. -/
def asGet (r : Request) : Request := { bare r with method := "GET" }

/-- The request that a redirect with the given status goes on with, still for the same place. -/
def redirected? (r : Request) (status : Nat) : Option Request :=
  match status with
  | 301 => some (if r.method = "POST" then asGet r else r)
  | 302 => some (if r.method = "POST" then asGet r else r)
  | 303 => some (if r.method = "HEAD" then bare r else asGet r)
  | 307 => some r
  | 308 => some r
  | _ => none

/-- Where a response points to, as seen from the place that was asked. -/
def location? (u : Url) (response : Response) : Option Url := do
  let text ← response.headers.first? "location"
  match u.join text with
  | .ok place => if isTarget place then some place else none
  | .error _ => none

/-- Whether two URLs name different hosts. -/
def crossesHost (a b : Url) : Bool := a.host ≠ b.host || a.knownPort ≠ b.knownPort

/-- How a place names itself to the place it sends a client to. -/
def referer? (source target : Url) : Option String :=
  if source.scheme = "https" ∧ target.scheme = "http" then none
  else some { source with username := "", password := none, fragment := none }.text

/-- The request for the place that a redirect points to. -/
def moveTo (r : Request) (place : Url) : Request :=
  let headers := if crossesHost r.url place then r.headers.without sensitiveHeaders else r.headers
  { r with
    url := place
    headers :=
      match referer? r.url place with
      | some source => headers.set "referer" source
      | none => headers }

/-- The request that a response sends the client on to. -/
def next? (r : Request) (response : Response) : Option Request := do
  let kept ← redirected? r response.status
  let place ← location? r.url response
  return moveTo kept place

/-- Sends a request and follows at most `left` redirects. -/
def follow {ε : Type} (left : Nat) (r : Request) : Action ε Outcome :=
  .exchange r fun
    | .unreachable => return .failed
    | .silent => return .failed
    | .answer response complete =>
      match next? r response with
      | none => return .received response complete
      | some next =>
        match left with
        | 0 => return .failed
        | left + 1 => if isSendable next.url then follow left next else return .unbuildable

/-- Sends a request. -/
def send {ε : Type} (r : Request) : Action ε Outcome :=
  let r := authorize r
  if isSendable r.url && isTarget r.url then follow redirectLimit r else return .unbuildable

end Client

end ReportGateway.Http
