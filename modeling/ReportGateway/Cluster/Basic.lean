import ReportGateway.Json.Record

/-!
Clusters of an organization. A cluster set keeps the records in the order they were listed, and the
display name of every id; when an id is listed more than once, its last record names it.
-/

namespace ReportGateway

open Json (Value Fields Read)

/-- One cluster as an organization's listing records it. -/
structure Cluster where
  id : String
  displayName : String
  status : Option String
deriving DecidableEq

namespace Cluster

def fieldNames : List String := ["id", "display_name", "status"]

def read : Read Cluster := fun room d => do
  let f ← Fields.ofDocument? fieldNames room d
  return {
    id := ← f.required "id" Read.text
    displayName := ← f.withDefault "display_name" "" Read.text
    status := ← f.withDefault "status" none (Read.optional Read.text) }

def toJson (c : Cluster) : Value :=
  .object ([
    ("id", .string c.id),
    ("display_name", .string c.displayName)]
    ++ (c.status.map fun s => ("status", Value.string s)).toList)

/-- A cluster of which only the id is known. -/
def ofId (id : String) : Cluster := ⟨id, "", none⟩

end Cluster

/-- The clusters of an organization, with display names by id. -/
structure ClusterSet where
  clusters : List Cluster
  displayNames : List (String × String)
deriving DecidableEq

namespace ClusterSet

/-- The set of the given records; the last record of an id names it. -/
def ofRecords (clusters : List Cluster) : ClusterSet :=
  ⟨clusters, Json.inOrder (clusters.map fun c => (c.id, c.displayName))⟩

/-- The set of clusters of which only the ids are known. -/
def ofIds (ids : List String) : ClusterSet := ofRecords (ids.map Cluster.ofId)

def ids (s : ClusterSet) : List String := s.clusters.map Cluster.id

def size (s : ClusterSet) : Nat := s.clusters.length

def isEmpty (s : ClusterSet) : Bool := s.clusters.isEmpty

def fieldNames : List String := ["clusters", "display_names"]

def read : Read ClusterSet := fun room d => do
  let f ← Fields.ofDocument? fieldNames room d
  return {
    clusters := ← f.required "clusters" (Read.listOf Cluster.read)
    displayNames := ← f.required "display_names" (Read.mapOf Read.text) }

def toJson (s : ClusterSet) : Value :=
  .object [
    ("clusters", .array (s.clusters.map Cluster.toJson)),
    ("display_names", .object (s.displayNames.map fun (id, name) => (id, .string name)))]

end ClusterSet

end ReportGateway
