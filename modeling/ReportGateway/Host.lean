import ReportGateway.Address.Socket

/-!
The ports of a host on which programs listen. A program listens on an address of the host and a port
on which no other listens; port zero stands for one that the host picks.
-/

namespace ReportGateway

/-- A host with the ports in use. -/
structure Host where
  /-- Whether an address belongs to the host. -/
  owns : Address.Socket → Bool
  /-- The ports on which something listens. -/
  taken : List Nat

namespace Host

/-- The first port that a host may pick. -/
def firstPicked : Nat := 32768

/-- The least free port from a number on, searched for in so many steps. -/
def freeFrom (taken : List Nat) : (steps port : Nat) → Nat
  | 0, port => port
  | steps + 1, port => if taken.contains port then freeFrom taken steps (port + 1) else port

/-- A port on which nothing listens. -/
def freePort (h : Host) : Nat := freeFrom h.taken h.taken.length firstPicked

/-- Starts listening; gives the address with its port. -/
def listen? (h : Host) (a : Address.Socket) : Option (Address.Socket × Host) :=
  let bound := if a.port = 0 then a.withPort h.freePort else a
  if h.owns a ∧ !h.taken.contains bound.port then
    some (bound, { h with taken := bound.port :: h.taken })
  else none

/-- Stops listening, if something listens there. -/
def close (h : Host) (a : Address.Socket) : Host :=
  { h with taken := h.taken.filter (· ≠ a.port) }

def isListening (h : Host) (a : Address.Socket) : Bool := h.taken.contains a.port

end Host

end ReportGateway
