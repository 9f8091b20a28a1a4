import ReportGateway.Http.Client
import ReportGateway.Cluster.Basic
import ReportGateway.Url.Form
import ReportGateway.Url.Segments

/-!
Asking the membership service which clusters belong to an organization. Clusters of some statuses
can be left out: the service is asked to leave them out, and any that it lists nevertheless are
dropped. A cluster without a status is kept.
-/

namespace ReportGateway.Membership

open Json (Read)

/-- Why the service did not tell. -/
inductive Error
  | transport (detail : String)
  | status (code : Nat)
  | decode (detail : String)
  | invalidUrl
deriving DecidableEq

def Error.message : Error → String
  | .transport detail => "membership service unreachable: " ++ detail
  | .status code => "membership service returned " ++ Decimal.text code
  | .decode detail => "unexpected membership service payload: " ++ detail
  | .invalidUrl => "invalid membership service URL"

def template : Url.Template := [.fixed "organizations", .hole "org_id", .fixed "clusters"]

/-- Where the clusters of an organization are listed. -/
def listing? (base : Url) (org : String) (excluded : List String) : Option Url := do
  let url ← base.resource? template [org]
  return if excluded.isEmpty then url
    else url.appendPair "exclude_status" (",".intercalate excluded)

/-- Whether a cluster is kept when some statuses are left out. -/
def keeps (excluded : List String) (c : Cluster) : Bool :=
  match c.status with
  | none => true
  | some status => !excluded.contains status

/-- What an answer of the service means. -/
def interpret (excluded : List String) : Http.Outcome → Except Error ClusterSet
  | .unbuildable => .error (.transport "the request cannot be written")
  | .failed => .error (.transport "no answer")
  | .received response complete =>
    if Http.isSuccess response.status then
      let read := Read.envelope "clusters" (Read.listOf Cluster.read)
      match if complete then read.ofBytes? response.body.data.toList else none with
      | some listed => .ok (.ofRecords (listed.filter (keeps excluded)))
      | none => .error (.decode "the answer cannot be read")
    else .error (.status response.status)

/-- The clusters of an organization, without those of the given statuses. -/
def clusters (base : Url) (org : String) (excluded : List String) : Action Error ClusterSet :=
  match listing? base org excluded with
  | none => .fail .invalidUrl
  | some url => do
    .done (interpret excluded (← Http.Client.send (.get url)))

end ReportGateway.Membership
