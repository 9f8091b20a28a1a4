import ReportGateway.Caller
import ReportGateway.Http.Headers

/-!
Requests from clients. The path and the query are kept as they were sent, with their escapes. Who
sent a request is known once it has been found out.
-/

namespace ReportGateway

/-- A request from a client. -/
structure Inbound where
  method : String
  path : String
  query : Option String
  headers : Http.Headers
  body : ByteArray
  caller : Option Caller

namespace Inbound

/-- What follows the authority in a target that begins with a scheme. -/
def afterScheme? (cs : List Char) : Option (List Char) :=
  let scheme := cs.takeWhile fun c => c.isAlphanum || c = '+' || c = '-' || c = '.'
  let rest := cs.drop scheme.length
  if !scheme.isEmpty ∧ "://".toList.isPrefixOf rest then
    some ((rest.drop 3).dropWhile fun c => c ≠ '/' && c ≠ '?' && c ≠ '#')
  else none

/-- The path and query of a request target. A target that names a place by scheme and authority has
at least the root path; one that is an authority alone has none. -/
def splitTarget (target : String) : String × Option String :=
  let cs := target.toList
  let whole := if cs.head? = some '/' ∨ cs = ['*'] then cs else (afterScheme? cs).getD []
  let isAbsolute := cs.head? ≠ some '/' ∧ (afterScheme? cs).isSome
  let shown := whole.takeWhile (· ≠ '#')
  let path := shown.takeWhile (· ≠ '?')
  let query :=
    match shown.dropWhile (· ≠ '?') with
    | _ :: query => some (String.ofList query)
    | [] => none
  (if isAbsolute ∧ path.isEmpty then "/" else String.ofList path, query)

/-- A request for a target, from someone not known yet. -/
def ofTarget (method target : String) (headers : Http.Headers) (body : ByteArray) : Inbound :=
  let (path, query) := splitTarget target
  { method, path, query, headers, body, caller := none }

/-- The size of the largest body that is taken, in bytes. -/
def bodyLimit : Nat := 2 * 1024 * 1024

end Inbound

end ReportGateway
