import ReportGateway.Address.Reader

/-!
Socket addresses: where a server listens. An address of version 4 is followed by a colon and the
port; one of version 6 stands in brackets, with the number of a scope after a percent sign when it
has one. Ports and scopes may have leading zeros.
-/

namespace ReportGateway.Address

/-- An address with a port, and with a scope if it is one of version 6. -/
inductive Socket
  | v4 (address : V4) (port : Nat)
  | v6 (address : V6) (scope : Nat) (port : Nat)
deriving DecidableEq

namespace Socket

open Text (Phrase)
open Text.Phrase (literal maybe)

def port : Socket → Nat
  | .v4 _ p => p
  | .v6 _ _ p => p

/-- The same address with another port. -/
def withPort (p : Nat) : Socket → Socket
  | .v4 a _ => .v4 a p
  | .v6 a s _ => .v6 a s p

/-- The port that follows an address. -/
def portPhrase : Phrase Nat := do
  literal ":"
  number 10 none true (Nat.pow 2 16)

def v4Phrase : Phrase Socket := do
  let a ← Address.v4
  return .v4 a (← portPhrase)

/-- The scope of an address, zero when none is given. -/
def scope : Phrase Nat := do
  match ← maybe (literal "%") with
  | some _ => number 10 none true (Nat.pow 2 32)
  | none => return 0

def v6Phrase : Phrase Socket := do
  literal "["
  let a ← Address.v6
  let s ← scope
  literal "]"
  return .v6 a s (← portPhrase)

/-- Reads a whole text as a socket address. -/
def parse? (s : String) : Option Socket := do
  let (a, rest) ← (v4Phrase <|> v6Phrase) s.toList
  if rest.isEmpty then some a else none

/-- What is wrong with a text that is no socket address. -/
def invalidMessage : String := "invalid socket address syntax"

def text : Socket → String
  | .v4 a p => a.text ++ ":" ++ Decimal.text p
  | .v6 a s p =>
    "[" ++ a.mixedText ++ (if s = 0 then "" else "%" ++ Decimal.text s) ++ "]:" ++ Decimal.text p

end Socket

end ReportGateway.Address
