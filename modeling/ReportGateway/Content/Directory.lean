import ReportGateway.Rule.Content

/-!
The directory of rule content. A lookup asks for the content of one rule by rule id and error key;
that there is none is an answer, and only a directory that cannot answer is an error. A directory
answers from the list that was loaded last, and not at all before the first one. When a list has
several entries of one rule, the last of them counts.
-/

namespace ReportGateway.Content

/-- Why a lookup has no answer. -/
inductive Error
  | notLoaded
  | inaccessible
deriving DecidableEq

def Error.message : Error → String
  | .notLoaded => "rule content directory is not available"
  | .inaccessible => "rule content directory lock poisoned"

/-- A source of rule content. -/
abbrev Lookup : Type := (ruleId errorKey : String) → Except Error (Option RuleContent)

/-- The content that a list has for a rule: its last entry of that rule. -/
def find? (contents : List RuleContent) (ruleId errorKey : String) : Option RuleContent :=
  contents.reverse.find? fun c => c.ruleId = ruleId ∧ c.errorKey = errorKey

/-- How many different rules a list has content for. -/
def countRules (contents : List RuleContent) : Nat :=
  (contents.map fun c => (c.ruleId, c.errorKey)).eraseDups.length

/-- The list that was loaded last, if one was. -/
structure Directory where
  loaded : Option (List RuleContent)
deriving DecidableEq

namespace Directory

/-- The directory before the first load. -/
def empty : Directory := ⟨none⟩

/-- Replaces what the directory holds; gives the number of rules it then has content for. -/
def load (_ : Directory) (contents : List RuleContent) : Directory × Nat :=
  (⟨some contents⟩, countRules contents)

def ofContents (contents : List RuleContent) : Directory := (empty.load contents).1

def isLoaded (d : Directory) : Bool := d.loaded.isSome

def lookup (d : Directory) : Lookup := fun ruleId errorKey =>
  match d.loaded with
  | none => .error .notLoaded
  | some contents => .ok (find? contents ruleId errorKey)

end Directory

end ReportGateway.Content
