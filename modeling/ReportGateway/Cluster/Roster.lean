import ReportGateway.Aggregator
import ReportGateway.Membership

/-!
The clusters of an organization. The membership service is asked first, if there is one. When it
does not answer, the results store lists the clusters it knows, unless that is switched off. The two
lists are never put together.
-/

namespace ReportGateway

/-- Where clusters are looked up. -/
structure Roster where
  aggregator : Url
  membership : Option Url
  useFallback : Bool

namespace Roster

/-- The statuses of clusters that are not listed. -/
def excludedStatuses : List String := ["Deprovisioned", "Archived"]

/-- What the results store lists, if it may be asked. -/
def fallback (r : Roster) (org : String) : Action Failure ClusterSet :=
  if r.useFallback then do return .ofIds (← Aggregator.clusters r.aggregator org)
  else .fail (.unavailable .membership)

/-- The clusters of an organization. -/
def clusters (r : Roster) (org : String) : Action Failure ClusterSet :=
  match r.membership with
  | none => r.fallback org
  | some base => do
    match ← (Membership.clusters base org excludedStatuses).attempt with
    | .ok found => return found
    | .error _ => r.fallback org

/-- The ids of the clusters of an organization. -/
def clusterIds (r : Roster) (org : String) : Action Failure (List String) := do
  return (← r.clusters org).ids

end Roster

end ReportGateway
