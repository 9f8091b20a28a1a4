import ReportGateway.Json.Record
import ReportGateway.Toml.Reader

/-!
The settings of a gateway: where it listens and under which path, which services it asks and how
long it waits for them, and who may see internal rules. Every setting has a default. Settings are
written as TOML, or as a JSON document of the same shape.
-/

namespace ReportGateway

open Json (Document Fields Read Value)

namespace Settings

/-- How the gateway serves its clients. -/
structure Server where
  address : String
  apiPath : String
  enableCors : Bool
  /-- Whether the results store lists the clusters of an organization when the membership service
  does not. -/
  useFallback : Bool
  enableInternalRules : Bool
  internalOrganizations : List String
deriving DecidableEq

/-- The services that the gateway asks. Times are in seconds. -/
structure Services where
  aggregator : String
  content : String
  requestTimeout : Nat
  pollInterval : Nat
deriving DecidableEq

end Settings

/-- All settings of a gateway. -/
structure Settings where
  server : Settings.Server
  services : Settings.Services
  /-- The base URL of the membership service, if there is one. -/
  membership : Option String
deriving DecidableEq

namespace Settings

def Server.default : Server where
  address := "127.0.0.1:8081"
  apiPath := "/api/v1/"
  enableCors := false
  useFallback := true
  enableInternalRules := false
  internalOrganizations := []

def Services.default : Services where
  aggregator := "http://localhost:8080/api/v1/"
  content := "http://localhost:8082/api/v1/"
  requestTimeout := 10
  pollInterval := 60

def default : Settings := ⟨.default, .default, none⟩

def Server.fieldNames : List String :=
  ["address", "api_prefix", "enable_cors", "use_org_clusters_fallback",
    "enable_internal_rules_organizations", "internal_rules_organizations"]

/-- Reads a part of the settings; what is missing keeps its default. -/
def Server.read (surplus : Bool) (d : Server) : Read Server := fun room doc => do
  let f ← Fields.ofWritten? surplus fieldNames room doc
  return {
    address := ← f.withDefault "address" d.address Read.text
    apiPath := ← f.withDefault "api_prefix" d.apiPath Read.text
    enableCors := ← f.withDefault "enable_cors" d.enableCors Read.bool
    useFallback := ← f.withDefault "use_org_clusters_fallback" d.useFallback Read.bool
    enableInternalRules :=
      ← f.withDefault "enable_internal_rules_organizations" d.enableInternalRules Read.bool
    internalOrganizations :=
      ← f.withDefault "internal_rules_organizations" d.internalOrganizations
          (Read.listOf Read.text) }

def Services.fieldNames : List String :=
  ["aggregator_base_endpoint", "content_base_endpoint", "request_timeout_secs",
    "groups_poll_interval_secs"]

def Services.read (surplus : Bool) (d : Services) : Read Services := fun room doc => do
  let f ← Fields.ofWritten? surplus fieldNames room doc
  return {
    aggregator := ← f.withDefault "aggregator_base_endpoint" d.aggregator Read.text
    content := ← f.withDefault "content_base_endpoint" d.content Read.text
    requestTimeout := ← f.withDefault "request_timeout_secs" d.requestTimeout Read.nat64
    pollInterval := ← f.withDefault "groups_poll_interval_secs" d.pollInterval Read.nat64 }

def readMembership (surplus : Bool) (d : Option String) : Read (Option String) := fun room doc => do
  let f ← Fields.ofWritten? surplus ["url"] room doc
  f.withDefault "url" d (Read.optional Read.text)

/-- Reads settings. A part that is missing altogether has the values of `d`. -/
def read (surplus : Bool) (d : Settings) : Read Settings := fun room doc => do
  let f ← Fields.ofWritten? surplus ["server", "services", "membership"] room doc
  return {
    server := ← f.withDefault "server" d.server (Server.read surplus d.server)
    services := ← f.withDefault "services" d.services (Services.read surplus d.services)
    membership := ← f.withDefault "membership" d.membership (readMembership surplus d.membership) }

def Server.toJson (s : Server) : Value :=
  .object [
    ("address", .string s.address),
    ("api_prefix", .string s.apiPath),
    ("enable_cors", .bool s.enableCors),
    ("use_org_clusters_fallback", .bool s.useFallback),
    ("enable_internal_rules_organizations", .bool s.enableInternalRules),
    ("internal_rules_organizations", .strings s.internalOrganizations)]

def Services.toJson (s : Services) : Value :=
  .object [
    ("aggregator_base_endpoint", .string s.aggregator),
    ("content_base_endpoint", .string s.content),
    ("request_timeout_secs", .int s.requestTimeout),
    ("groups_poll_interval_secs", .int s.pollInterval)]

def toJson (s : Settings) : Value :=
  .object [
    ("server", s.server.toJson),
    ("services", s.services.toJson),
    ("membership", .object [("url", (s.membership.map Value.string).getD .null)])]

end Settings

/-- Who may see internal rules. -/
structure InternalAccess where
  enabled : Bool
  organizations : List String
deriving DecidableEq

namespace InternalAccess

/-- Whether an organization may see internal rules. -/
def allows (a : InternalAccess) (org : String) : Bool := a.enabled && a.organizations.contains org

end InternalAccess

def Settings.internalAccess (s : Settings) : InternalAccess :=
  ⟨s.server.enableInternalRules, s.server.internalOrganizations⟩

end ReportGateway
