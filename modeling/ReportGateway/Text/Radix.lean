/-!
Digits in a radix of at most sixteen. Digits above nine are letters, which are read in either case
and written in lower case.
-/

namespace ReportGateway.Radix

/-- The value of a character as a digit. -/
def digit? (radix : Nat) (c : Char) : Option Nat :=
  let n :=
    if '0' ≤ c ∧ c ≤ '9' then c.toNat - 48
    else if 'a' ≤ c ∧ c ≤ 'f' then c.toNat - 87
    else if 'A' ≤ c ∧ c ≤ 'F' then c.toNat - 55
    else radix
  if n < radix then some n else none

/-- The value of a byte as a hexadecimal digit. -/
def hexDigit? (b : UInt8) : Option Nat := digit? 16 (Char.ofNat b.toNat)

/-- The leading digits of a text, and what follows. -/
def span (radix : Nat) : List Char → List Nat × List Char
  | [] => ([], [])
  | c :: rest =>
    match digit? radix c with
    | some d => let (ds, rest) := span radix rest; (d :: ds, rest)
    | none => ([], c :: rest)

/-- The number that a list of digits denotes, most significant first. -/
def value (radix : Nat) (ds : List Nat) : Nat := ds.foldl (fun n d => radix * n + d) 0

/-- The character of a digit. -/
def char (d : Nat) : Char := Char.ofNat (if d < 10 then 48 + d else 87 + d)

/-- A number in hexadecimal without leading zeros. -/
def hexadecimal (n : Nat) : List Char :=
  if n < 16 then [char n] else hexadecimal (n / 16) ++ [char (n % 16)]

end ReportGateway.Radix
