import ReportGateway.Http.Client
import ReportGateway.Content.Groups
import ReportGateway.Failure
import ReportGateway.Url.Segments

/-!
Refreshing what is known about the rules. A refresh fetches the content of all rules and then the
rule groups. When the content cannot be fetched, the directory stays as it is; how the fetch of the
groups ended is kept either way.
-/

namespace ReportGateway

open Json (Read)

namespace Content

/-- What an answer of the content service means. -/
def interpret {α : Type} (read : Read α) : Http.Outcome → Except RefreshError α
  | .unbuildable => .error (.transport "the request cannot be written")
  | .failed => .error (.transport "no answer")
  | .received response complete =>
    if Http.isSuccess response.status then
      match if complete then read.ofBytes? response.body.data.toList else none with
      | some x => .ok x
      | none => .error (.decode "the answer cannot be read")
    else .error (.status response.status)

/-- Fetches what stands at one place under the base URL. -/
def fetch {α : Type} (base : Url) (place : String) (read : Read α) : Action RefreshError α :=
  match base.resource? [.fixed place] [] with
  | none => .fail .invalidUrl
  | some url => do
    .done (interpret read (← Http.Client.send (.get url)))

/-- What is known about the rules. -/
structure Library where
  directory : Directory
  groups : Groups
deriving DecidableEq

namespace Library

/-- What is known before the first refresh. -/
def empty : Library := ⟨.empty, .none⟩

/-- One refresh. -/
def refresh {ε : Type} (l : Library) (base : Url) : Action ε Library := do
  let contents ← (fetch base "content" (.envelope "content" (.listOf RuleContent.read))).attempt
  let groups ← (fetch base "groups" (.envelope "groups" (.listOf RuleGroup.read))).attempt
  return {
    directory :=
      match contents with
      | .ok contents => (l.directory.load contents).1
      | .error _ => l.directory
    groups := .ofRefresh groups }

end Library

end Content

/-- The failure that a refresh that went wrong is to a client. -/
def Failure.ofRefresh : Content.RefreshError → Failure
  | .transport _ => .unavailable .content
  | .status code => .internal (Content.RefreshError.status code).message
  | .decode detail => .internal (Content.RefreshError.decode detail).message
  | .invalidUrl => .internal Content.RefreshError.invalidUrl.message

end ReportGateway
