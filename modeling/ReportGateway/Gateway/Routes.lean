import ReportGateway.Text.Decimal
import ReportGateway.Text.Utf8
import ReportGateway.Url.Percent

/-!
The routes of the gateway. A route is a pattern of segments, some of which capture what stands in
their place, and serves one method. Paths are compared as they were sent; what was captured is
decoded afterwards. No path fits two routes, since patterns of one length differ in a segment that
neither captures.
-/

namespace ReportGateway.Gateway

/-- What the gateway has for callers that it knows. -/
inductive Resource
  | report
  | reportInfo
  | rule
  | clusters
  | reportsOfPayload
  | reportsOfList
  | overview
  | groups
  | content
  | ruleAction
deriving DecidableEq

/-- What a route leads to: a resource, or the news that the gateway is up, which is for everyone. -/
inductive Endpoint
  | health
  | resource (r : Resource)
deriving DecidableEq

/-- A segment of a pattern: a fixed text, perhaps with a capture of the rest of the segment. -/
structure Segment where
  text : String
  capture : Option String
deriving DecidableEq

/-- The segments that a path has to fit one by one. -/
abbrev Pattern : Type := List Segment

/-- The pieces of a text between slashes. -/
def pieces (s : String) : List String := (s.toList.splitOn '/').map String.ofList

/-- A segment as it is written, where a colon begins the name of a capture. -/
def Segment.ofText (s : String) : Segment :=
  let text := s.toList.takeWhile (· ≠ ':')
  match s.toList.dropWhile (· ≠ ':') with
  | _ :: name => ⟨String.ofList text, some (String.ofList name)⟩
  | [] => ⟨s, none⟩

def Pattern.ofText (s : String) : Pattern := (pieces s).map Segment.ofText

/-- Which paths and which method lead to an endpoint. -/
structure Route where
  pattern : Pattern
  method : String
  endpoint : Endpoint

/-- What users can do about a rule on a cluster. -/
def ruleActions : List String := ["disable", "enable", "like", "dislike", "reset_vote"]

/-- The patterns under the path of the gateway, with what they lead to. -/
def places : List (String × String × Endpoint) :=
  [("", "GET", .health),
    ("/report/:cluster", "GET", .resource .report),
    ("/report/:cluster/info", "GET", .resource .reportInfo),
    ("/report/:cluster/rule/:rule", "GET", .resource .rule),
    ("/clusters", "GET", .resource .clusters),
    ("/clusters/reports", "POST", .resource .reportsOfPayload),
    ("/clusters/:cluster/reports", "GET", .resource .reportsOfList),
    ("/org_overview", "GET", .resource .overview),
    ("/groups", "GET", .resource .groups),
    ("/content", "GET", .resource .content)]
  ++ ruleActions.map fun action =>
    ("/clusters/:cluster/rules/:rule_id/error_key/:error_key/" ++ action, "PUT",
      .resource .ruleAction)

/-- The routes of a gateway under a path. -/
def routes (path : String) : List Route :=
  places.map fun (place, method, endpoint) => ⟨Pattern.ofText (path ++ place), method, endpoint⟩

/-- What a segment of a path gives for a segment of a pattern: its captures, if it fits. -/
def Segment.fit? (s : Segment) (piece : String) : Option (List (String × String)) :=
  match s.capture with
  | none => if s.text = piece then some [] else none
  | some name =>
    if s.text.toList.isPrefixOf piece.toList then
      some [(name, String.ofList (piece.toList.drop s.text.length))]
    else none

/-- What a path gives for a pattern. A capture at the end is not empty. -/
def Pattern.fit? : Pattern → List String → Option (List (String × String))
  | [], [] => some []
  | s :: more, piece :: rest => do
    let here ← s.fit? piece
    if more.isEmpty ∧ here.any fun c => c.2 = "" then none
    return here ++ (← fit? more rest)
  | _, _ => none

/-- The route that a path takes, and what it captures. -/
def findRoute (path sent : String) : Option (Route × List (String × String)) :=
  (routes path).findSome? fun route => (route.pattern.fit? (pieces sent)).map (route, ·)

/-- The methods that a route serves, as a client is told. -/
def Route.allowed (r : Route) : String := if r.method = "GET" then "GET,HEAD" else r.method

/-- Whether a route serves a method; what is got can also be asked for without its body. -/
def Route.serves (r : Route) (method : String) : Bool :=
  method = r.method || (r.method = "GET" && method = "HEAD")

/-- The path under the path of the gateway, as a service sees it. -/
def relativePath (path sent : String) : String :=
  let front := pieces path
  let own := pieces sent
  let fits := (front.zip own).all fun (p, s) => p.toList.head? = some ':' || p = s
  if front.length ≤ own.length ∧ fits then
    "/" ++ "/".intercalate (own.drop front.length)
  else sent

/-- Why captures cannot be used. -/
inductive CaptureError
  | invalidText (name : String)
  | wrongCount (expected found : Nat)
deriving DecidableEq

def CaptureError.status : CaptureError → Nat
  | .invalidText _ => 400
  | .wrongCount _ _ => 500

def CaptureError.message : CaptureError → String
  | .invalidText name => "Invalid URL: Invalid UTF-8 in `" ++ name ++ "`"
  | .wrongCount expected found =>
    "Wrong number of path arguments for `Path`. Expected " ++ Decimal.text expected ++ " but got "
      ++ Decimal.text found
      ++ if expected = 1 then
          ". Note that multiple parameters must be extracted with a tuple `Path<(_, _)>` or a "
            ++ "struct `Path<YourParams>`"
        else ""

/-- The texts that captures stand for. -/
def decodeCaptures : List (String × String) → Except CaptureError (List String)
  | [] => .ok []
  | (name, sent) :: more =>
    match Utf8.decode? (Url.Percent.decode sent) with
    | none => .error (.invalidText name)
    | some text => do return text :: (← decodeCaptures more)

/-- The one capture that there has to be. -/
def capture (found : List (String × String)) : Except CaptureError String := do
  match ← decodeCaptures found with
  | [text] => return text
  | texts => throw (.wrongCount 1 texts.length)

/-- The first two captures. -/
def captures (found : List (String × String)) : Except CaptureError (String × String) := do
  match ← decodeCaptures found with
  | a :: b :: _ => return (a, b)
  | texts => throw (.wrongCount 2 texts.length)

end ReportGateway.Gateway
