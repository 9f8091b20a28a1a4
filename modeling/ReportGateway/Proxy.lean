import ReportGateway.Http.Client
import ReportGateway.Failure
import ReportGateway.Inbound
import ReportGateway.Text.Blank
import ReportGateway.Text.Quoted
import ReportGateway.Url.Form

/-!
Passing requests on to a service. A request goes through modifiers, is sent to the place of the same
path under the service's base URL, and the response goes through modifiers of its own. The first
modifier that fails ends it all. Headers that describe the connection are not passed on, in either
direction.
-/

namespace ReportGateway.Proxy

/-- The headers that describe the connection and not the message. -/
def connectionHeaders : List String := ["host", "content-length", "connection", "transfer-encoding"]

/-- Changes a request, or refuses it. -/
abbrev RequestModifier : Type := Inbound → Except Failure Inbound

/-- Changes a response, or refuses it. -/
abbrev ResponseModifier : Type := Http.Response → Except Failure Http.Response

/-- A service, and what is done to what goes to it and comes from it. -/
structure Route where
  service : Service
  base : Url
  requestModifiers : List RequestModifier
  responseModifiers : List ResponseModifier

/-- Runs modifiers one after the other, up to the first that fails. -/
def runAll {α : Type} (modifiers : List (α → Except Failure α)) (x : α) : Except Failure α :=
  modifiers.foldlM (fun x m => m x) x

/-- The place of a path and query under a base URL. -/
def target (base : Url) (path : String) (query : Option String) : Except Failure Url :=
  let relative := String.ofList (path.toList.dropWhile (· = '/'))
  match base.join ("./" ++ relative) with
  | .ok url => .ok (url.setQuery query)
  | .error e => .error (.internal ("cannot build proxy URL for " ++ path ++ ": " ++ e.message))

def target? (base : Url) (path : String) (query : Option String) : Option Url :=
  (target base path query).toOption

/-- What came of passing a request on. -/
def interpret (service : Service) : Http.Outcome → Except Failure Http.Response
  | .unbuildable => .error .unwritable
  | .failed => .error (.unavailable service)
  | .received _ false => .error (.unavailable service)
  | .received response true => .ok response

/-- Passes a request on; gives the response as the modifiers leave it. -/
def dispatch (route : Route) (r : Inbound) : Action Failure Http.Response := do
  let r ← .done (runAll route.requestModifiers r)
  let url ← .done (target route.base r.path r.query)
  let outcome ← Http.Client.send {
    method := r.method, url, headers := r.headers.without connectionHeaders, body := r.body }
  let response ← .done (interpret route.service outcome)
  .done (runAll route.responseModifiers response)

/-- The response for the client. What the service calls its content stands; content that it does not
name is a stream of bytes. -/
def toClient (response : Http.Response) : Http.Response :=
  let kept := response.headers.without connectionHeaders
  let named := kept.any fun field => field.1 = "content-type"
  { response with
    headers := if named then kept else ("content-type", "application/octet-stream") :: kept }

/-- Passes a request with a body of limited size on. -/
def forward (route : Route) (r : Inbound) : Action Failure Http.Response :=
  if r.body.size > Inbound.bodyLimit then
    .fail (.badRequest "cannot read request body: length limit exceeded")
  else toClient <$> dispatch route r

/-- Whether a user id can stand in a path as it is. -/
def isPlainUser (user : String) : Bool :=
  user.toList.all fun c => c.isAlphanum || c = '-' || c = '_' || c = '.'

/-- A path without slashes at its end, as what comes before its last segment and that segment, when
there is a slash between them and the segment is not empty. -/
def splitAction? (path : String) : Option (String × String) :=
  let cs := path.toList.reverse.dropWhile (· = '/')
  let action := cs.takeWhile (· ≠ '/')
  if action.isEmpty then none
  else
    match cs.dropWhile (· ≠ '/') with
    | _ :: front => some (String.ofList front.reverse, String.ofList action.reverse)
    | [] => none

/-- Names the user who sends a request in its path, before the last segment. -/
def insertUser : RequestModifier := fun r =>
  match r.caller with
  | none => .error .unauthorized
  | some caller =>
    if !isPlainUser caller.user then
      .error (.badRequest ("invalid user id " ++ Text.quote caller.user))
    else
      match splitAction? r.path with
      | none => .error (.badRequest ("cannot rewrite path " ++ r.path))
      | some (front, action) =>
        .ok { r with path := front ++ "/users/" ++ caller.user ++ "/" ++ action }

end ReportGateway.Proxy
