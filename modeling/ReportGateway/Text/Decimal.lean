/-!
Natural numbers in decimal. `digits` writes a number most significant digit first without leading
zeros, `value` reads digits back, and `text` is the written form as characters. Reading what was
written gives the number again (`value_digits`).
-/

namespace ReportGateway.Decimal

/-- The number that a list of digits denotes, most significant first. -/
def value (ds : List Nat) : Nat := ds.foldl (fun n d => 10 * n + d) 0

/-- The decimal digits of a number, most significant first; zero is one digit. -/
def digits (n : Nat) : List Nat :=
  if n < 10 then [n] else digits (n / 10) ++ [n % 10]

/-- The character of a digit. -/
def char (d : Nat) : Char := Char.ofNat (48 + d)

/-- A number as decimal text. -/
def text (n : Nat) : String := String.ofList ((digits n).map char)

/-- An integer as decimal text, with a minus sign when it is negative. -/
def intText (n : Int) : String :=
  if n < 0 then "-" ++ text n.natAbs else text n.natAbs

/-- The value of a decimal digit character. -/
def digit? (c : Char) : Option Nat := if c.isDigit then some (c.toNat - 48) else none

/-- The number that a non-empty text of digits denotes. -/
def read? (cs : List Char) : Option Nat :=
  if cs.isEmpty then none else (cs.mapM digit?).map value

theorem value_append_singleton (ds : List Nat) (d : Nat) :
    value (ds ++ [d]) = 10 * value ds + d := by
  simp [value]

theorem value_digits (n : Nat) : value (digits n) = n := by
  induction n using Nat.strongRecOn with
  | ind n ih =>
    unfold digits
    split
    · simp [value]
    · rw [value_append_singleton, ih (n / 10) (by omega)]
      omega

theorem digits_lt_ten (n : Nat) : ∀ d ∈ digits n, d < 10 := by
  induction n using Nat.strongRecOn with
  | ind n ih =>
    unfold digits
    split
    · simpa using ‹n < 10›
    · intro d hd
      rcases List.mem_append.1 hd with h | h
      · exact ih (n / 10) (by omega) d h
      · rw [List.mem_singleton.1 h]
        omega

theorem digits_ne_nil (n : Nat) : digits n ≠ [] := by
  unfold digits
  split <;> simp

end ReportGateway.Decimal
