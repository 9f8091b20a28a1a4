import ReportGateway.Text.Radix

/-!
Tables of code point ranges. A table is written as text: ranges in hexadecimal, in ascending order,
each a code point or a first and a last one joined by a hyphen, with blanks between the ranges. A
table is searched by halving.
-/

namespace ReportGateway.Text

/-- Ranges of code points, each with its ends, in ascending order. -/
abbrev Ranges : Type := Array (Nat × Nat)

namespace Ranges

/-- A range that is being read: its first end once a hyphen has come, and the digits since. -/
structure Reading where
  first : Option Nat
  digits : Option Nat
  found : Ranges

/-- Closes the range that is being read, if one is. -/
def Reading.close (r : Reading) : Reading :=
  match r.first, r.digits with
  | some a, some b => ⟨none, none, r.found.push (a, b)⟩
  | none, some a => ⟨none, none, r.found.push (a, a)⟩
  | _, none => ⟨none, none, r.found⟩

def Reading.step (r : Reading) (c : Char) : Reading :=
  if c = '-' then { r with first := r.digits, digits := none }
  else if c = ' ' ∨ c = '\n' then r.close
  else { r with digits := some (16 * r.digits.getD 0 + (Radix.digit? 16 c).getD 0) }

/-- Reads a table. -/
def ofText (s : String) : Ranges :=
  (s.toList.foldl Reading.step ⟨none, none, #[]⟩).close.found

/-- Searches the ranges from `low` on, up to but not including `high`. -/
def search (r : Ranges) (n low high : Nat) : Bool :=
  if low < high then
    let middle := (low + high) / 2
    let (first, last) := r.getD middle (0, 0)
    if n < first then search r n low middle
    else if last < n then search r n (middle + 1) high
    else true
  else false
termination_by high - low

/-- Whether a code point lies in one of the ranges. -/
def contains (r : Ranges) (n : Nat) : Bool := search r n 0 r.size

end Ranges

end ReportGateway.Text
