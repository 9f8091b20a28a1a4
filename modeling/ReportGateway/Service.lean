/-!
The services behind the gateway.
-/

namespace ReportGateway

/-- A service that the gateway asks. -/
inductive Service
  /-- Stores the results of the clusters' analyses. -/
  | aggregator
  /-- Hands out what is known about the rules. -/
  | content
  /-- Knows which clusters belong to an organization. -/
  | membership
deriving DecidableEq

namespace Service

/-- The name of a service in messages to clients. -/
def title : Service → String
  | .aggregator => "Aggregator service"
  | .content => "Content service"
  | .membership => "Identity service"

/-- The code of the failure to reach a service. -/
def unavailableCode : Service → String
  | .aggregator => "AGGREGATOR_UNAVAILABLE"
  | .content => "CONTENT_UNAVAILABLE"
  | .membership => "IDENTITY_SERVICE_UNAVAILABLE"

end Service

end ReportGateway
