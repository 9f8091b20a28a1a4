import ReportGateway.Rule.Hit

/-!
Reports as the results store hands them out: the report of one cluster with its metadata, the
metadata of a stored report alone, and the reports of several clusters, which are opaque here.
-/

namespace ReportGateway

open Json (Value Fields Read)

/-- What is known about a report besides its hits. -/
structure ReportMeta where
  count : Int
  lastCheckedAt : String
  gatheredAt : Option String
deriving DecidableEq

namespace ReportMeta

def empty : ReportMeta := ⟨0, "", none⟩

def fieldNames : List String := ["count", "last_checked_at", "gathered_at"]

def read : Read ReportMeta := fun room d => do
  let f ← Fields.ofDocument? fieldNames room d
  return {
    count := ← f.withDefault "count" 0 Read.int64
    lastCheckedAt := ← f.withDefault "last_checked_at" "" Read.text
    gatheredAt := ← f.withDefault "gathered_at" none (Read.optional Read.text) }

def toJson (m : ReportMeta) : Value :=
  .object ([
    ("count", .int m.count),
    ("last_checked_at", .string m.lastCheckedAt)]
    ++ (m.gatheredAt.map fun t => ("gathered_at", Value.string t)).toList)

end ReportMeta

/-- The report of one cluster. -/
structure Report where
  metadata : ReportMeta
  hits : List RuleHit

namespace Report

def fieldNames : List String := ["meta", "reports"]

def read : Read Report := fun room d => do
  let f ← Fields.ofDocument? fieldNames room d
  return {
    metadata := ← f.withDefault "meta" .empty ReportMeta.read
    hits := ← f.withDefault "reports" [] (Read.listOf RuleHit.read) }

def toJson (r : Report) : Value :=
  .object [
    ("meta", r.metadata.toJson),
    ("reports", .array (r.hits.map RuleHit.toJson))]

end Report

/-- What is known about a stored report. -/
structure ReportInfo where
  count : Int
  lastCheckedAt : String
  storedAt : String
deriving DecidableEq

namespace ReportInfo

def fieldNames : List String := ["count", "last_checked_at", "stored_at"]

def read : Read ReportInfo := fun room d => do
  let f ← Fields.ofDocument? fieldNames room d
  return {
    count := ← f.withDefault "count" 0 Read.int64
    lastCheckedAt := ← f.withDefault "last_checked_at" "" Read.text
    storedAt := ← f.withDefault "stored_at" "" Read.text }

def toJson (i : ReportInfo) : Value :=
  .object [
    ("count", .int i.count),
    ("last_checked_at", .string i.lastCheckedAt),
    ("stored_at", .string i.storedAt)]

end ReportInfo

/-- The reports of several clusters, by cluster id. -/
structure ClusterReports where
  clusters : List String
  errors : List String
  reports : List (String × Value)
  generatedAt : String
  status : String

namespace ClusterReports

def fieldNames : List String := ["clusters", "errors", "reports", "generated_at", "status"]

def read : Read ClusterReports := fun room d => do
  let f ← Fields.ofDocument? fieldNames room d
  return {
    clusters := ← f.withDefault "clusters" [] (Read.listOf Read.text)
    errors := ← f.withDefault "errors" [] (Read.listOf Read.text)
    reports := ← f.withDefault "reports" [] (Read.mapOf Read.opaqueData)
    generatedAt := ← f.withDefault "generated_at" "" Read.text
    status := ← f.withDefault "status" "" Read.text }

def toJson (r : ClusterReports) : Value :=
  .object [
    ("clusters", .strings r.clusters),
    ("errors", .strings r.errors),
    ("reports", .object r.reports),
    ("generated_at", .string r.generatedAt),
    ("status", .string r.status)]

end ClusterReports

end ReportGateway
