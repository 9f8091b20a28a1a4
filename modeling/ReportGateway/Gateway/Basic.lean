import ReportGateway.Cluster.Roster
import ReportGateway.Content.Refresh
import ReportGateway.Settings.Check

/-!
A gateway, as settings describe it: the path it serves under, the services it asks, and who may see
internal rules.
-/

namespace ReportGateway

/-- A gateway: where it serves, whom it asks, and who may see what. -/
structure Gateway where
  path : String
  enableCors : Bool
  aggregator : Url
  content : Url
  roster : Roster
  access : InternalAccess

namespace Gateway

/-- The gateway that settings describe, if nothing is wrong with them. -/
def ofSettings (s : Settings) : Except Settings.Error Gateway := do
  s.check
  let aggregator ← s.aggregatorUrl
  let content ← s.contentUrl
  let membership ← s.membershipUrl
  return {
    path := s.routePath
    enableCors := s.server.enableCors
    aggregator
    content
    roster := { aggregator, membership, useFallback := s.server.useFallback }
    access := s.internalAccess }

end Gateway

end ReportGateway
