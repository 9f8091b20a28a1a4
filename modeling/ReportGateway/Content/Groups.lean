import ReportGateway.Rule.Group
import ReportGateway.Text.Decimal

/-!
What the last refresh of the rule groups came to. One refresher writes it and any number of readers
see the same; before the first refresh there are no groups, and a failed refresh is shown as its
error until one succeeds.
-/

namespace ReportGateway.Content

/-- Why content could not be fetched. -/
inductive RefreshError
  | transport (detail : String)
  | status (code : Nat)
  | decode (detail : String)
  | invalidUrl
deriving DecidableEq

def RefreshError.message : RefreshError → String
  | .transport detail => "content service unreachable: " ++ detail
  | .status code => "content service returned " ++ Decimal.text code
  | .decode detail => "unexpected content service payload: " ++ detail
  | .invalidUrl => "invalid content service URL"

/-- What the last refresh came to, if there has been one. -/
inductive Groups
  | none
  | published (groups : List RuleGroup)
  | failed (e : RefreshError)
deriving DecidableEq

namespace Groups

/-- What a reader sees. -/
def latest : Groups → Except RefreshError (List RuleGroup)
  | .none => .ok []
  | .published groups => .ok groups
  | .failed e => .error e

/-- The groups after a refresh. -/
def ofRefresh : Except RefreshError (List RuleGroup) → Groups
  | .ok groups => .published groups
  | .error e => .failed e

theorem latest_ofRefresh (r : Except RefreshError (List RuleGroup)) : (ofRefresh r).latest = r := by
  cases r <;> rfl

end Groups

end ReportGateway.Content
