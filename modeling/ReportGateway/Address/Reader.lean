import ReportGateway.Address.Ip
import ReportGateway.Text.Phrase

/-!
Reading internet addresses off the front of a text. Octets have no leading zeros, pieces may. Two
colons stand for at least one zero piece, and an address of version 4 for two pieces at the end.
-/

namespace ReportGateway.Address

open Text (Phrase)
open Text.Phrase (literal)

/-- A number below a bound, of at most so many digits. -/
def number (radix : Nat) (most : Option Nat) (leadingZeros : Bool) (bound : Nat) : Phrase Nat :=
  fun cs =>
    let (ds, rest) := Radix.span radix cs
    let n := Radix.value radix ds
    if ds.isEmpty ∨ (most.any fun m => m < ds.length) ∨ bound ≤ n
        ∨ (!leadingZeros ∧ ds.length > 1 ∧ ds.head? = some 0) then none
    else some (n, rest)

def octet : Phrase Nat := number 10 (some 3) false 256

/-- A piece of an address of version 6. -/
def piece : Phrase Nat := number 16 (some 4) true (Nat.pow 2 16)

def v4 : Phrase V4 := do
  let a ← octet
  literal "."
  let b ← octet
  literal "."
  let c ← octet
  literal "."
  let d ← octet
  return V4.ofNat (((a * 256 + b) * 256 + c) * 256 + d)

/-- The colon before every piece but the first. -/
def separator (first : Bool) : Phrase Unit := if first then pure () else literal ":"

/-- Reads at most `left` pieces; an address of version 4 may stand for the last two. Gives the
pieces, and whether such an address ended them. -/
def pieces (first : Bool) : (left : Nat) → Phrase (List Nat × Bool)
  | 0 => pure ([], false)
  | left + 1 =>
    (do
      separator first
      let a ← v4
      if left = 0 then failure
      return ([a.bits.toNat / Nat.pow 2 16, a.bits.toNat % Nat.pow 2 16], true))
    <|> (do
      separator first
      let n ← piece
      let (more, ended) ← pieces false left
      return (n :: more, ended))
    <|> pure ([], false)

def v6 : Phrase V6 := do
  let (front, ended) ← pieces true 8
  if front.length = 8 then return ⟨front⟩
  if ended then failure
  literal "::"
  let (back, _) ← pieces true (7 - front.length)
  return ⟨front ++ List.replicate (8 - front.length - back.length) 0 ++ back⟩

end ReportGateway.Address
