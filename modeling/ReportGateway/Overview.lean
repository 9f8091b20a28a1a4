import ReportGateway.Cluster.Roster
import ReportGateway.Visibility.Filter

/-!
The overview of an organization: how many of its clusters have hits, and the risks and tags of all
hits that have content. The reports are asked for one after the other. A cluster whose report the
results store refuses is passed over; every other failure ends the whole. Nothing is hidden here, be
it disabled, internal or for another audience.
-/

namespace ReportGateway

open Json (Value)

/-- The number of clusters with hits, and the risks and tags of all hits in order. -/
structure Overview where
  clustersHit : Nat
  totalRisks : List Int
  tags : List String
deriving DecidableEq

namespace Overview

def empty : Overview := ⟨0, [], []⟩

/-- Two overviews put together, the first one in front. -/
def append (a b : Overview) : Overview :=
  ⟨a.clustersHit + b.clustersHit, a.totalRisks ++ b.totalRisks, a.tags ++ b.tags⟩

instance : Append Overview := ⟨append⟩

/-- The part of an overview that one hit's content makes up. -/
def ofContent : Option RuleContent → Overview
  | none => empty
  | some c => ⟨0, [c.totalRisk], c.tags⟩

/-- Looks up the content of hits. -/
def ofHits : List RuleHit → Action Failure Overview
  | [] => return empty
  | h :: hits => do
    let content ← (Action.contentOf h.component h.key).mapError Failure.ofContent
    return ofContent content ++ (← ofHits hits)

/-- The part of an overview that one cluster's report makes up. -/
def ofReport (r : Report) : Action Failure Overview :=
  if r.hits.isEmpty then return empty
  else do return ⟨1, [], []⟩ ++ (← ofHits r.hits)

/-- The part of an overview that one cluster makes up. -/
def ofCluster (base : Url) (org user cluster : String) : Action Failure Overview := do
  match ← (Aggregator.report base org cluster user).attempt with
  | .ok report => ofReport report
  | .error (.relayed _ _) => return empty
  | .error e => .fail e

/-- The overview of clusters. -/
def ofClusters (base : Url) (org user : String) : List String → Action Failure Overview
  | [] => return empty
  | cluster :: more => do
    let first ← ofCluster base org user cluster
    return first ++ (← ofClusters base org user more)

/-- How often each element of a list occurs, in order of the elements. -/
def tally {α : Type} [DecidableEq α] [LT α] [DecidableLT α] : List α → List (α × Nat)
  | [] => []
  | x :: rest => insert x (tally rest)
where
  insert (x : α) : List (α × Nat) → List (α × Nat)
    | [] => [(x, 1)]
    | (y, n) :: more =>
      if x = y then (y, n + 1) :: more
      else if x < y then (x, 1) :: (y, n) :: more
      else (y, n) :: insert x more

/-- An overview as clients see it: how often each risk and each tag occurs. -/
structure Summary where
  clustersHit : Nat
  hitByRisk : List (Int × Nat)
  hitByTag : List (String × Nat)
deriving DecidableEq

def summary (o : Overview) : Summary := ⟨o.clustersHit, tally o.totalRisks, tally o.tags⟩

def Summary.toJson (s : Summary) : Value :=
  .object [
    ("status", .string "ok"),
    ("clusters_hit", .int s.clustersHit),
    ("hit_by_risk", .object (s.hitByRisk.map fun (risk, n) => (Decimal.intText risk, .int n))),
    ("hit_by_tag", .object (s.hitByTag.map fun (tag, n) => (tag, .int n)))]

end Overview

end ReportGateway
