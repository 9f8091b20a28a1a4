import ReportGateway.Address.Reader
import ReportGateway.Url.Basic
import ReportGateway.Url.Domain
import ReportGateway.Url.Percent

/-!
Hosts of URLs. In a special URL a host is an address in brackets, a number of one to four parts, or
a domain name, which is percent-decoded and normalized first. In any other URL a host is an address
in brackets or a text without the characters that end one.
-/

namespace ReportGateway.Url.Host

/-- Reads a part of an address of version 4: decimal, or octal after a zero, or hexadecimal after
`0x`. -/
def part? (cs : List Char) : Option Nat :=
  let read (radix : Nat) (cs : List Char) : Option Nat :=
    match Radix.span radix cs with
    | (ds, []) => some (Radix.value radix ds)
    | _ => none
  match cs with
  | [] => none
  | '0' :: 'x' :: rest => read 16 rest
  | '0' :: 'X' :: rest => read 16 rest
  | '0' :: d :: rest => read 8 (d :: rest)
  | cs => read 10 cs

/-- The parts of a domain name; one final point does not count. -/
def parts (name : List Char) : List (List Char) :=
  let ps := name.splitOn '.'
  if ps.length > 1 ∧ ps.getLast? = some [] then ps.dropLast else ps

/-- Whether the last part of a domain name is a number, so that all of it has to be an address. -/
def endsInNumber (name : List Char) : Bool :=
  match (parts name).getLast? with
  | some last => (last ≠ [] && last.all Char.isDigit) || (part? last).isSome
  | none => false

/-- Reads an address of one to four numbers; the last fills all octets that are left. -/
def v4? (name : List Char) : Option Address.V4 := do
  let numbers ← (parts name).mapM part?
  let last ← numbers.getLast?
  let front := numbers.dropLast
  if front.length < 4 ∧ front.all (· < 256) ∧ last < Nat.pow 256 (4 - front.length) then
    let high := front.foldl (fun n d => 256 * n + d) 0
    some (Address.V4.ofNat (high * Nat.pow 256 (4 - front.length) + last))
  else none

/-- Reads an address of version 6 without its brackets. -/
def v6? (cs : List Char) : Option Address.V6 := do
  let (a, rest) ← Address.v6 cs
  if rest.isEmpty then some a else none

/-- Reads a text in brackets. -/
def bracketed (cs : List Char) : Except Error Host :=
  match cs.getLast?, v6? cs.dropLast with
  | some ']', some a => .ok (.v6 a)
  | _, _ => .error .invalidV6

/-- Reads the host of a special URL. -/
def ofSpecial (cs : List Char) : Except Error Host :=
  match cs with
  | '[' :: rest => bracketed rest
  | _ =>
    match Domain.toAscii? (Percent.decode (String.ofList cs)) with
    | none => .error .invalidDomain
    | some domain =>
      if domain.isEmpty then .error .emptyHost
      else if endsInNumber domain then
        match v4? domain with
        | some a => .ok (.v4 a)
        | none => .error .invalidV4
      else .ok (.name (String.ofList domain))

/-- The characters that cannot stand in a host. -/
def isForbidden (c : Char) : Bool :=
  Percent.oneOf "\x00\t\n\r #/:<>?@[\\]^|" c

/-- Reads the host of a URL that is not special. -/
def ofOther (cs : List Char) : Except Error Host :=
  match cs with
  | '[' :: rest => bracketed rest
  | _ =>
    if cs.any isForbidden then .error .invalidHostCharacter
    else .ok (.name (Percent.encode Percent.control cs))

end ReportGateway.Url.Host
