import ReportGateway.Json.Record

/-!
A rule hit: what the results store says about one rule on one cluster. A hit names its rule by a
component and an error key, and carries the votes and the disabled state of the cluster's users. Its
details are opaque here and passed on to the client.
-/

namespace ReportGateway

open Json (Value Fields Read)

/-- One rule that was found to apply to a cluster. -/
structure RuleHit where
  component : String
  key : String
  userVote : Int
  disabled : Bool
  disableFeedback : String
  disabledAt : String
  details : Value
  createdAt : String

namespace RuleHit

def fieldNames : List String :=
  ["component", "key", "user_vote", "disabled", "disable_feedback", "disabled_at", "details",
    "created_at"]

def read : Read RuleHit := fun room d => do
  let f ← Fields.ofDocument? fieldNames room d
  return {
    component := ← f.required "component" Read.text
    key := ← f.required "key" Read.text
    userVote := ← f.withDefault "user_vote" 0 Read.int32
    disabled := ← f.withDefault "disabled" false Read.bool
    disableFeedback := ← f.withDefault "disable_feedback" "" Read.text
    disabledAt := ← f.withDefault "disabled_at" "" Read.text
    details := ← f.withDefault "details" .null Read.opaqueData
    createdAt := ← f.withDefault "created_at" "" Read.text }

def toJson (h : RuleHit) : Value :=
  .object [
    ("component", .string h.component),
    ("key", .string h.key),
    ("user_vote", .int h.userVote),
    ("disabled", .bool h.disabled),
    ("disable_feedback", .string h.disableFeedback),
    ("disabled_at", .string h.disabledAt),
    ("details", h.details),
    ("created_at", .string h.createdAt)]

end RuleHit

end ReportGateway
