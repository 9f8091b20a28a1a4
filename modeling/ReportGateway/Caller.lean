import ReportGateway.Json.Record
import ReportGateway.Text.Base64
import ReportGateway.Text.Blank

/-!
Who sends a request. A header holds a JSON document in base64 that names the organization, the
account and the user; every id in it is a text or a natural number. The organization may stand in
either of two places, and the account number stands for a user that is not named. Someone without an
organization or without a user is nobody.
-/

namespace ReportGateway

open Json (Fields Read)

/-- Someone who may use the gateway. -/
structure Caller where
  org : String
  account : String
  user : String
deriving DecidableEq

namespace Caller

/-- The header that says who sends a request. -/
def headerName : String := "x-rh-identity"

/-- An id: a text, or a natural number of 64 bits, which stands for its digits. -/
def id : Read String
  | room, .string t => Read.text room (.string t)
  | room, .number l => (Read.nat64 room (.number l)).map Decimal.text
  | _, _ => none

/-- An id that may be absent. -/
def optionalId (f : Fields) (name : String) : Option (Option String) :=
  f.withDefault name none (Read.optional id)

/-- A record with one id that may be absent. -/
def idIn (name : String) : Read (Option String) := fun room d => do
  optionalId (← Fields.ofDocument? [name] room d) name

/-- What a document says about the caller, before anything is made of it. -/
structure Claim where
  account : Option String
  org : Option String
  internalOrg : Option String
  user : Option String
deriving DecidableEq

namespace Claim

def fieldNames : List String := ["account_number", "org_id", "internal", "user"]

def read : Read Claim := fun room d => do
  let f ← Fields.ofDocument? fieldNames room d
  return {
    account := ← optionalId f "account_number"
    org := ← optionalId f "org_id"
    internalOrg := (← f.withDefault "internal" none (Read.optional (idIn "org_id"))).join
    user := (← f.withDefault "user" none (Read.optional (idIn "user_id"))).join }

/-- An id that is not empty. -/
def present (id : Option String) : Option String := id.filter (· ≠ "")

/-- The caller that a document names. -/
def caller? (c : Claim) : Option Caller := do
  let account := (present c.account).getD ""
  let org ← (present c.org).or (present c.internalOrg)
  let user ← (present c.user).or (present (some account))
  return ⟨org, account, user⟩

end Claim

/-- The caller that a document, given as bytes, names. -/
def ofDocument? (bytes : List UInt8) : Option Caller := do
  (← (Read.envelope "identity" Claim.read).ofBytes? bytes).caller?

/-- The caller that a header value names. -/
def ofHeader? (value : String) : Option Caller := do
  ofDocument? (← Base64.decode? (Text.trimBoth Text.isBlank value.toList))

end Caller

end ReportGateway
