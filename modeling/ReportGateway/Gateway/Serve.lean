import ReportGateway.Gateway.Endpoints

/-!
How the gateway serves a request. A path that no route fits is not found. Every route but the health
check first asks who the caller is; only then does a method that the route does not serve count. The
response to a request for the head of a resource has no body. Every response bears the id of its
request. Browsers of other origins are let in when the settings say so; their preflight requests are
then answered without a look at the routes.
-/

namespace ReportGateway.Gateway

/-- The header with the id of a request. -/
def requestIdHeader : String := "x-request-id"

/-- The caller that the headers of a request name. Only a first value of plain text counts. -/
def caller? (headers : Http.Headers) : Option Caller := do
  let value ← headers.first? Caller.headerName
  let isPlain (c : Char) : Bool := c = '\t' || (' ' ≤ c && c ≤ '~')
  if value.toList.all isPlain then Caller.ofHeader? value else none

def emptyResponse (status : Nat) : Http.Response := { status, headers := [], body := .empty }

def withoutBody (response : Http.Response) : Http.Response := { response with body := .empty }

/-- Says which methods a route serves. -/
def withAllowed (route : Route) (response : Http.Response) : Http.Response :=
  { response with headers := response.headers.set "allow" route.allowed }

/-- Makes a rejection a response like any other. -/
def concluded {ε : Type} (a : Action Rejection Http.Response) : Action ε Http.Response :=
  a.settle fun
    | .ok response => return response
    | .error e => return e.response

/-- What is answered on a route to a request of a method that it serves. -/
def onRoute {ε : Type} (g : Gateway) (groups : Content.Groups) (route : Route)
    (found : List (String × String)) (r : Inbound) : Action ε Http.Response :=
  match route.endpoint, caller? r.headers with
  | .health, _ => return okay []
  | .resource _, none => return Failure.unauthorized.response
  | .resource resource, some caller =>
    concluded <| answer g groups caller resource found
      { r with path := relativePath g.path r.path, caller := some caller }

/-- What is answered on a route to a request of a method that it does not serve. -/
def onWrongMethod (route : Route) (r : Inbound) : Http.Response :=
  withAllowed route <|
    match route.endpoint, caller? r.headers with
    | .resource _, none => Failure.unauthorized.response
    | _, _ => emptyResponse 405

/-- What is answered, as far as routes decide it. -/
def route {ε : Type} (g : Gateway) (groups : Content.Groups) (r : Inbound) :
    Action ε Http.Response :=
  match findRoute g.path r.path with
  | none => return emptyResponse 404
  | some (route, found) =>
    if !route.serves r.method then return onWrongMethod route r
    else if r.method = "HEAD" then withoutBody <$> onRoute g groups route found r
    else onRoute g groups route found r

/-- The response with the id of its request. -/
def identified {ε : Type} (g : Gateway) (groups : Content.Groups) (id : String) (r : Inbound) :
    Action ε Http.Response := do
  let response ← route g groups r
  return { response with headers := response.headers.set requestIdHeader id }

/-- What a browser has to take into account when it keeps a response. -/
def varyValue : String := "origin, access-control-request-method, access-control-request-headers"

/-- Lets browsers of any origin read a response. -/
def openToAll (response : Http.Response) : Http.Response :=
  { response with
    headers := (response.headers.set "access-control-allow-origin" "*").add "vary" varyValue }

/-- The answer to a preflight request. -/
def preflight (g : Gateway) (r : Inbound) : Http.Response :=
  let response := openToAll <| {
    status := 200
    headers := [
      ("access-control-allow-methods", "GET,POST,PUT,DELETE,OPTIONS"),
      ("access-control-allow-headers", "content-type,authorization," ++ Caller.headerName)]
    body := .empty }
  match findRoute g.path r.path with
  | none => response
  | some (route, _) => withAllowed route response

/-- What the gateway answers to a request with the given id. -/
def respond {ε : Type} (g : Gateway) (groups : Content.Groups) (id : String) (r : Inbound) :
    Action ε Http.Response :=
  if g.enableCors then
    if r.method = "OPTIONS" then return preflight g r
    else openToAll <$> identified g groups id r
  else identified g groups id r

end ReportGateway.Gateway
