import ReportGateway.Text.Decimal
import ReportGateway.Text.Radix

/-!
Internet addresses. An address of version 4 is four octets and one of version 6 eight pieces of 16
bits. In the text of the latter the first of the longest runs of at least two zero pieces is left
out.
-/

namespace ReportGateway.Address

/-- An address of version 4, as a number of 32 bits. -/
structure V4 where
  bits : BitVec 32
deriving DecidableEq

namespace V4

def ofNat (n : Nat) : V4 := ⟨BitVec.ofNat 32 n⟩

def octets (a : V4) : List Nat :=
  [a.bits.toNat / Nat.pow 2 24, a.bits.toNat / Nat.pow 2 16 % 256,
    a.bits.toNat / Nat.pow 2 8 % 256, a.bits.toNat % 256]

/-- Four decimal numbers with points between them. -/
def text (a : V4) : String := ".".intercalate (a.octets.map Decimal.text)

end V4

/-- An address of version 6, by its eight pieces. -/
structure V6 where
  pieces : List Nat
deriving DecidableEq

namespace V6

/-- The number of zero pieces at the front. -/
def zeroRun (ps : List Nat) : Nat := (ps.takeWhile (· = 0)).length

/-- The first of the longest runs of zero pieces: where it starts and how long it is. -/
def longestRun : (at_ : Nat) → List Nat → Nat × Nat
  | _, [] => (0, 0)
  | at_, p :: ps =>
    let here := zeroRun (p :: ps)
    let later := longestRun (at_ + 1) ps
    if here ≥ later.2 then (at_, here) else later

def hexText (n : Nat) : String := String.ofList (Radix.hexadecimal n)

def joined (ps : List Nat) : String := ":".intercalate (ps.map hexText)

/-- The text of an address, in hexadecimal throughout. -/
def text (a : V6) : String :=
  let (start, length) := longestRun 0 a.pieces
  if length < 2 then joined a.pieces
  else joined (a.pieces.take start) ++ "::" ++ joined (a.pieces.drop (start + length))

/-- The address of version 4 that is embedded in a mapped one. -/
def mapped? (a : V6) : Option V4 :=
  match a.pieces with
  | [0, 0, 0, 0, 0, 0xFFFF, high, low] => some (V4.ofNat (high * Nat.pow 2 16 + low))
  | _ => none

/-- The text of an address; a mapped one ends in the text of the address of version 4. -/
def mixedText (a : V6) : String :=
  match a.mapped? with
  | some v4 => "::ffff:" ++ v4.text
  | none => a.text

end V6

end ReportGateway.Address
