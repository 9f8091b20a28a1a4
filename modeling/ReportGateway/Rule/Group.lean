import ReportGateway.Json.Record

/-!
A rule group: a named collection of tags under which clients sort rules.
-/

namespace ReportGateway

open Json (Value Fields Read)

/-- Rules that belong together, by the tags they share. -/
structure RuleGroup where
  title : String
  description : String
  tags : List String
deriving DecidableEq

namespace RuleGroup

def fieldNames : List String := ["title", "description", "tags"]

def read : Read RuleGroup := fun room d => do
  let f ← Fields.ofDocument? fieldNames room d
  return {
    title := ← f.required "title" Read.text
    description := ← f.withDefault "description" "" Read.text
    tags := ← f.withDefault "tags" [] (Read.listOf Read.text) }

def toJson (g : RuleGroup) : Value :=
  .object [
    ("title", .string g.title),
    ("description", .string g.description),
    ("tags", .strings g.tags)]

end RuleGroup

end ReportGateway
