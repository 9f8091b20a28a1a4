import ReportGateway.Cluster.Uuid
import ReportGateway.Gateway.Basic
import ReportGateway.Gateway.Routes
import ReportGateway.Overview
import ReportGateway.Proxy

/-!
What the gateway does at each of its endpoints. Parameters are checked first, then the services are
asked, and what they say is put together. A parameter that is no boolean is an error or counts as
false, depending on the parameter.
-/

namespace ReportGateway.Gateway

open Json (Value)

/-- Why an endpoint does not answer. -/
inductive Rejection
  | failure (f : Failure)
  | captures (e : CaptureError)
  /-- The body of the request is too large. -/
  | tooLarge

def Rejection.response : Rejection → Http.Response
  | .failure f => f.response
  | .captures e => plain e.status e.message
  | .tooLarge => plain 413 "Failed to buffer the request body: length limit exceeded"
where
  plain (status : Nat) (text : String) : Http.Response :=
    { status, headers := [("content-type", "text/plain; charset=utf-8")], body := text.toUTF8 }

/-- A client's boolean. -/
def boolean? (s : String) : Option Bool :=
  if ["1", "t", "T", "true", "TRUE", "True"].contains s then some true
  else if ["0", "f", "F", "false", "FALSE", "False"].contains s then some false
  else none

/-- The value of a parameter in the query of a request. -/
def parameter? (r : Inbound) (name : String) : Option String :=
  r.query.bind fun q => Url.Form.value? q name

/-- A boolean parameter that is false when it is not there. -/
def strictFlag (r : Inbound) (name : String) : Except Failure Bool :=
  match parameter? r name with
  | none => .ok false
  | some raw =>
    match boolean? raw with
    | some b => .ok b
    | none =>
      .error (.badRequest ("parameter " ++ name ++ " must be a boolean, got " ++ Text.quote raw))

/-- A boolean parameter that is false when it is not there or is no boolean. -/
def lenientFlag (r : Inbound) (name : String) : Bool :=
  ((parameter? r name).bind boolean?).getD false

/-- The canonical name of a cluster. -/
def clusterName (raw : String) : Except Failure String :=
  match Uuid.parse? raw with
  | some id => .ok id.text
  | none => .error (.badRequest ("invalid cluster name " ++ Text.quote raw))

/-- The canonical names of listed clusters. -/
def clusterNames (raw : String) : Except Failure (List String) :=
  match Uuid.parseList? raw with
  | none => .error (.badRequest ("invalid cluster list " ++ Text.quote raw))
  | some [] => .error (.badRequest "cluster list is empty")
  | some ids => .ok (ids.map Uuid.text)

/-- The rule id and error key of a selector, around its first bar. -/
def selector (raw : String) : Except Failure (String × String) :=
  let ruleId := raw.toList.takeWhile (· ≠ '|')
  let errorKey := (raw.toList.dropWhile (· ≠ '|')).drop 1
  if ruleId.isEmpty ∨ errorKey.isEmpty then
    .error (.badRequest ("rule selector must be rule_id|error_key, got " ++ Text.quote raw))
  else .ok (String.ofList ruleId, String.ofList errorKey)

/-- A positive response with the given members. -/
def okay (members : List (String × Value)) : Http.Response :=
  Failure.jsonResponse 200 (.object (("status", .string "ok") :: members))

/-- What happens at one endpoint to a request from a known caller. -/
abbrev Handler : Type := Action Failure Http.Response

/-- The report of a cluster, filtered and joined with content. -/
def report (g : Gateway) (caller : Caller) (cluster : String) (r : Inbound) : Handler := do
  let cluster ← .done (clusterName cluster)
  let includeDisabled ← .done (strictFlag r "get_disabled")
  let audienceOnly := lenientFlag r "osd_eligible"
  let found ← Aggregator.report g.aggregator caller.org cluster caller.user
  let policy :=
    Visibility.Policy.forReport includeDisabled audienceOnly (g.access.allows caller.org)
  let filtered ← (Visibility.filter policy found.hits).mapError Failure.ofContent
  return okay [("report", .object [
    ("meta", { found.metadata with count := filtered.totalCount }.toJson),
    ("data", .array (filtered.visible.map RuleEntry.toJson))])]

/-- What is known about the report of a cluster. -/
def reportInfo (g : Gateway) (caller : Caller) (cluster : String) : Handler := do
  let cluster ← .done (clusterName cluster)
  let found ← Aggregator.info g.aggregator caller.org cluster caller.user
  return okay [("metainfo", found.toJson)]

/-- One hit of a rule on a cluster with its content. -/
def rule (g : Gateway) (caller : Caller) (cluster rawSelector : String) (r : Inbound) :
    Handler := do
  let cluster ← .done (clusterName cluster)
  let (ruleId, errorKey) ← .done (selector rawSelector)
  let hit ← Aggregator.rule g.aggregator caller.org cluster caller.user ruleId errorKey
  let content ← (Action.contentOf hit.component hit.key).mapError Failure.ofContent
  match content with
  | none => .fail (.notFound "Rule was not found")
  | some content =>
    let policy : Visibility.Policy :=
      ⟨true, if lenientFlag r "osd_eligible" then [.audience] else []⟩
    if policy.classify hit (some content) ≠ .visible then .fail (.notFound "Rule was not found")
    else if content.internal ∧ !g.access.allows caller.org then
      .fail (.permissionDenied "This rule is not available for your organization")
    else return okay [("report", (RuleEntry.join hit content).toJson)]

/-- The clusters of the caller's organization. -/
def clusters (g : Gateway) (caller : Caller) : Handler := do
  let found ← g.roster.clusters caller.org
  return okay [("clusters", .array (found.clusters.map Cluster.toJson))]

/-- The reports of the clusters that the body lists. -/
def reportsOfPayload (g : Gateway) (caller : Caller) (r : Inbound) : Handler :=
  if r.body.size = 0 then .fail (.badRequest "request body with cluster list is required")
  else do
    let found ← Aggregator.reportsOfPayload g.aggregator caller.org r.body
    return Failure.jsonResponse 200 found.toJson

/-- The reports of the clusters that the path lists. -/
def reportsOfList (g : Gateway) (caller : Caller) (list : String) : Handler := do
  let names ← .done (clusterNames list)
  let found ← Aggregator.reports g.aggregator caller.org names
  return Failure.jsonResponse 200 found.toJson

/-- The overview of the caller's organization. -/
def overview (g : Gateway) (caller : Caller) : Handler := do
  let ids ← g.roster.clusterIds caller.org
  let found ← Overview.ofClusters g.aggregator caller.org caller.user ids
  return Failure.jsonResponse 200 found.summary.toJson

/-- The rule groups. -/
def listGroups (groups : Content.Groups) : Handler := do
  let found ← .done (groups.latest.mapError Failure.ofRefresh)
  return okay [("groups", .array (found.map RuleGroup.toJson))]

/-- How requests are passed on to the content service. -/
def contentRoute (g : Gateway) : Proxy.Route := ⟨.content, g.content, [], []⟩

/-- How what users do about a rule is passed on to the results store. -/
def ruleActionRoute (g : Gateway) : Proxy.Route :=
  ⟨.aggregator, g.aggregator, [Proxy.insertUser], []⟩

def ofHandler (h : Handler) : Action Rejection Http.Response := h.mapError .failure

def ofCaptures {α : Type} (r : Except CaptureError α) : Action Rejection α :=
  .done (r.mapError .captures)

/-- What the gateway answers to a caller who asks for a resource. -/
def answer (g : Gateway) (groups : Content.Groups) (caller : Caller) (resource : Resource)
    (found : List (String × String)) (r : Inbound) : Action Rejection Http.Response :=
  match resource with
  | .report => do
    let cluster ← ofCaptures (capture found)
    ofHandler (report g caller cluster r)
  | .reportInfo => do
    let cluster ← ofCaptures (capture found)
    ofHandler (reportInfo g caller cluster)
  | .rule => do
    let (cluster, rawSelector) ← ofCaptures (captures found)
    ofHandler (rule g caller cluster rawSelector r)
  | .clusters => ofHandler (clusters g caller)
  | .reportsOfPayload =>
    if r.body.size > Inbound.bodyLimit then .fail .tooLarge
    else ofHandler (reportsOfPayload g caller r)
  | .reportsOfList => do
    let list ← ofCaptures (capture found)
    ofHandler (reportsOfList g caller list)
  | .overview => ofHandler (overview g caller)
  | .groups => ofHandler (listGroups groups)
  | .content => ofHandler (Proxy.forward g.contentRoute r)
  | .ruleAction => ofHandler (Proxy.forward g.ruleActionRoute r)

end ReportGateway.Gateway
