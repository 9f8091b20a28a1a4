import ReportGateway.Rule.Hit

/-!
Rule content: the texts, risks and tags that describe a rule, known by rule id and error key. An
entry of a report joins a hit with the content of its rule: who was hit, when, and what the users
said about it come from the hit; what the rule is about comes from the content.
-/

namespace ReportGateway

open Json (Value Fields Read)

/-- The description of one rule. -/
structure RuleContent where
  ruleId : String
  errorKey : String
  description : String
  generic : String
  reason : String
  resolution : String
  moreInfo : String
  totalRisk : Int
  riskOfChange : Int
  tags : List String
  /-- Shown only to organizations that are entitled to internal rules. -/
  internal : Bool
  /-- Meant for customers of the managed product. -/
  osdCustomer : Bool
  publishDate : String
deriving DecidableEq

namespace RuleContent

def fieldNames : List String :=
  ["rule_id", "error_key", "description", "generic", "reason", "resolution", "more_info",
    "total_risk", "risk_of_change", "tags", "internal", "osd_customer", "publish_date"]

def read : Read RuleContent := fun room d => do
  let f ← Fields.ofDocument? fieldNames room d
  return {
    ruleId := ← f.required "rule_id" Read.text
    errorKey := ← f.required "error_key" Read.text
    description := ← f.withDefault "description" "" Read.text
    generic := ← f.withDefault "generic" "" Read.text
    reason := ← f.withDefault "reason" "" Read.text
    resolution := ← f.withDefault "resolution" "" Read.text
    moreInfo := ← f.withDefault "more_info" "" Read.text
    totalRisk := ← f.withDefault "total_risk" 0 Read.int32
    riskOfChange := ← f.withDefault "risk_of_change" 0 Read.int32
    tags := ← f.withDefault "tags" [] (Read.listOf Read.text)
    internal := ← f.withDefault "internal" false Read.bool
    osdCustomer := ← f.withDefault "osd_customer" false Read.bool
    publishDate := ← f.withDefault "publish_date" "" Read.text }

def toJson (c : RuleContent) : Value :=
  .object [
    ("rule_id", .string c.ruleId),
    ("error_key", .string c.errorKey),
    ("description", .string c.description),
    ("generic", .string c.generic),
    ("reason", .string c.reason),
    ("resolution", .string c.resolution),
    ("more_info", .string c.moreInfo),
    ("total_risk", .int c.totalRisk),
    ("risk_of_change", .int c.riskOfChange),
    ("tags", .strings c.tags),
    ("internal", .bool c.internal),
    ("osd_customer", .bool c.osdCustomer),
    ("publish_date", .string c.publishDate)]

end RuleContent

/-- A hit together with the content of its rule, as clients see it. -/
structure RuleEntry where
  ruleId : String
  errorKey : String
  createdAt : String
  description : String
  generic : String
  reason : String
  resolution : String
  moreInfo : String
  totalRisk : Int
  riskOfChange : Int
  disabled : Bool
  disableFeedback : String
  disabledAt : String
  internal : Bool
  userVote : Int
  extraData : Value
  tags : List String

namespace RuleEntry

/-- Joins a hit with the content of its rule. -/
def join (h : RuleHit) (c : RuleContent) : RuleEntry where
  ruleId := h.component
  errorKey := h.key
  createdAt := h.createdAt
  description := c.description
  generic := c.generic
  reason := c.reason
  resolution := c.resolution
  moreInfo := c.moreInfo
  totalRisk := c.totalRisk
  riskOfChange := c.riskOfChange
  disabled := h.disabled
  disableFeedback := h.disableFeedback
  disabledAt := h.disabledAt
  internal := c.internal
  userVote := h.userVote
  extraData := h.details
  tags := c.tags

def fieldNames : List String :=
  ["rule_id", "error_key", "created_at", "description", "generic", "reason", "resolution",
    "more_info", "total_risk", "risk_of_change", "disabled", "disable_feedback", "disabled_at",
    "internal", "user_vote", "extra_data", "tags"]

def read : Read RuleEntry := fun room d => do
  let f ← Fields.ofDocument? fieldNames room d
  return {
    ruleId := ← f.required "rule_id" Read.text
    errorKey := ← f.required "error_key" Read.text
    createdAt := ← f.required "created_at" Read.text
    description := ← f.required "description" Read.text
    generic := ← f.required "generic" Read.text
    reason := ← f.required "reason" Read.text
    resolution := ← f.required "resolution" Read.text
    moreInfo := ← f.required "more_info" Read.text
    totalRisk := ← f.required "total_risk" Read.int32
    riskOfChange := ← f.required "risk_of_change" Read.int32
    disabled := ← f.required "disabled" Read.bool
    disableFeedback := ← f.required "disable_feedback" Read.text
    disabledAt := ← f.required "disabled_at" Read.text
    internal := ← f.required "internal" Read.bool
    userVote := ← f.required "user_vote" Read.int32
    extraData := ← f.required "extra_data" Read.opaqueData
    tags := ← f.required "tags" (Read.listOf Read.text) }

def toJson (e : RuleEntry) : Value :=
  .object [
    ("rule_id", .string e.ruleId),
    ("error_key", .string e.errorKey),
    ("created_at", .string e.createdAt),
    ("description", .string e.description),
    ("generic", .string e.generic),
    ("reason", .string e.reason),
    ("resolution", .string e.resolution),
    ("more_info", .string e.moreInfo),
    ("total_risk", .int e.totalRisk),
    ("risk_of_change", .int e.riskOfChange),
    ("disabled", .bool e.disabled),
    ("disable_feedback", .string e.disableFeedback),
    ("disabled_at", .string e.disabledAt),
    ("internal", .bool e.internal),
    ("user_vote", .int e.userVote),
    ("extra_data", e.extraData),
    ("tags", .strings e.tags)]

end RuleEntry

end ReportGateway
