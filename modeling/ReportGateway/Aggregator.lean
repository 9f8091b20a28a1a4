import ReportGateway.Http.Client
import ReportGateway.Failure
import ReportGateway.Report.Basic
import ReportGateway.Url.Segments

/-!
Asking the results store. Each question has a template for its place under the base URL and an
envelope in which the answer stands. An answer whose status is no success is handed on as it is; one
that is a success but cannot be read is a failure of the gateway itself.
-/

namespace ReportGateway.Aggregator

open Json (Read)
open Url (Template)

def listingTemplate : Template := [.fixed "organizations", .hole "org_id", .fixed "clusters"]

def clusterTemplate : Template := listingTemplate ++ [.hole "cluster"]

def reportTemplate : Template := clusterTemplate ++ [.fixed "users", .hole "user_id", .fixed "report"]

def infoTemplate : Template := reportTemplate ++ [.fixed "info"]

def ruleTemplate : Template :=
  clusterTemplate ++ [.fixed "users", .hole "user_id", .fixed "rules", .hole "rule_selector"]

def reportsTemplate : Template := listingTemplate ++ [.hole "cluster_list", .fixed "reports"]

def payloadTemplate : Template := listingTemplate ++ [.fixed "reports"]

/-- An answer of success in which nothing can be read. -/
def unreadable : Failure := .internal "decoding aggregator response: the answer cannot be read"

/-- A question without a place under the base. -/
def unplaced (template : Template) : Failure :=
  .internal ("cannot build URL for " ++ template.text)

/-- What an answer to a question means. -/
def interpret {α : Type} (read : Read α) : Http.Outcome → Except Failure α
  | .unbuildable => .error .unwritable
  | .failed => .error (.unavailable .aggregator)
  | .received _ false => .error (.unavailable .aggregator)
  | .received response true =>
    if Http.isSuccess response.status then
      match read.ofBytes? response.body.data.toList with
      | some x => .ok x
      | none => .error unreadable
    else .error (.relayed response.status response.body)

/-- Asks a question, given by its template, parameters and perhaps a body. -/
def ask {α : Type} (base : Url) (template : Template) (params : List String)
    (payload : Option ByteArray) (read : Read α) : Action Failure α :=
  match base.resource? template params with
  | none => .fail (unplaced template)
  | some url => do
    let request : Http.Request :=
      match payload with
      | none => { method := "GET", url, headers := [], body := .empty }
      | some body =>
        { method := "POST", url, headers := [("content-type", "application/json; charset=utf-8")],
          body }
    .done (interpret read (← Http.Client.send request))

/-- The report of a cluster. -/
def report (base : Url) (org cluster user : String) : Action Failure Report :=
  ask base reportTemplate [org, cluster, user] none (Read.envelope "report" Report.read)

/-- What is known about the stored report of a cluster. -/
def info (base : Url) (org cluster user : String) : Action Failure ReportInfo :=
  ask base infoTemplate [org, cluster, user] none (Read.envelope "metainfo" ReportInfo.read)

/-- How a rule and an error key are written as one. -/
def selectorText (ruleId errorKey : String) : String := ruleId ++ "|" ++ errorKey

/-- One hit of a rule on a cluster. -/
def rule (base : Url) (org cluster user ruleId errorKey : String) : Action Failure RuleHit :=
  ask base ruleTemplate [org, cluster, user, selectorText ruleId errorKey] none
    (Read.envelope "report" RuleHit.read)

/-- The reports of the listed clusters. -/
def reports (base : Url) (org : String) (clusters : List String) : Action Failure ClusterReports :=
  ask base reportsTemplate [org, ",".intercalate clusters] none ClusterReports.read

/-- The reports of the clusters that a body lists. -/
def reportsOfPayload (base : Url) (org : String) (body : ByteArray) :
    Action Failure ClusterReports :=
  ask base payloadTemplate [org] (some body) ClusterReports.read

/-- The clusters of an organization of which results are stored. -/
def clusters (base : Url) (org : String) : Action Failure (List String) :=
  ask base listingTemplate [org] none (Read.envelope "clusters" (Read.listOf Read.text))

end ReportGateway.Aggregator
