/-!
Punycode, which writes a label of any characters with letters, digits and hyphens. The encoder goes
through the characters outside ASCII in ascending order and writes where each stands as a number of
variable length; the decoder reads the numbers back and inserts the characters.
-/

namespace ReportGateway.Url.Punycode

/-- The code point after the basic ones. -/
def initialCode : Nat := 128

def initialBias : Nat := 72

/-- Halves of a large difference: the number of base steps, and what is left. -/
def reduce (delta steps : Nat) : Nat × Nat :=
  if delta ≤ 455 then (delta, steps) else reduce (delta / 35) (steps + 36)
termination_by delta
decreasing_by omega

/-- The bias after a difference has been written at a length. -/
def adapt (delta length : Nat) (first : Bool) : Nat :=
  let delta := if first then delta / 700 else delta / 2
  let (delta, steps) := reduce (delta + delta / length) 0
  steps + 36 * delta / (delta + 38)

/-- The least digit that ends a number at position `k`. -/
def threshold (k bias : Nat) : Nat := max 1 (min 26 (k - bias))

def digitChar (d : Nat) : Char := Char.ofNat (if d < 26 then 97 + d else 22 + d)

def digit? (c : Char) : Option Nat :=
  let n := c.toNat
  if 97 ≤ n ∧ n ≤ 122 then some (n - 97)
  else if 65 ≤ n ∧ n ≤ 90 then some (n - 65)
  else if 48 ≤ n ∧ n ≤ 57 then some (n - 22)
  else none

/-- A number of variable length, least digit first. -/
def number (n k bias : Nat) : List Char :=
  let t := threshold k bias
  if n < t then [digitChar n]
  else digitChar (t + (n - t) % (36 - t)) :: number ((n - t) / (36 - t)) (k + 36) bias
termination_by n
decreasing_by
  have : 1 ≤ threshold k bias := by unfold threshold; omega
  have := Nat.div_le_self (n - threshold k bias) (36 - threshold k bias)
  omega

/-- The encoder: the difference to write next, the bias, how many characters are placed, and what is
written, last part first. -/
structure Encoder where
  delta : Nat
  bias : Nat
  placed : Nat
  basic : Nat
  written : List (List Char)

/-- Passes one character of the label while those of one code point are placed. -/
def Encoder.pass (code : Nat) (e : Encoder) (c : Char) : Encoder :=
  if c.toNat < code then { e with delta := e.delta + 1 }
  else if c.toNat = code then
    { e with
      delta := 0
      bias := adapt e.delta (e.placed + 1) (e.placed = e.basic)
      placed := e.placed + 1
      written := number e.delta 36 e.bias :: e.written }
  else e

/-- Places the characters of the code points, given in ascending order. -/
def Encoder.run (label : List Char) : (next : Nat) → List Nat → Encoder → Encoder
  | _, [], e => e
  | next, code :: codes, e =>
    let e := { e with delta := e.delta + (code - next) * (e.placed + 1) }
    let e := label.foldl (Encoder.pass code) e
    run label (code + 1) codes { e with delta := e.delta + 1 }

/-- A list without repetitions, in ascending order. -/
def ascending (l : List Nat) : List Nat :=
  (l.mergeSort (· ≤ ·)).eraseDups

/-- Writes a label. -/
def encode (label : List Char) : List Char :=
  let basic := label.filter fun c => c.toNat < initialCode
  let codes := ascending ((label.map Char.toNat).filter (initialCode ≤ ·))
  let start : Encoder := ⟨0, initialBias, basic.length, basic.length, []⟩
  let done := Encoder.run label initialCode codes start
  basic ++ (if basic.isEmpty then [] else ['-']) ++ done.written.reverse.flatten

/-- The decoder: the code points so far, where the last was inserted, the number being read with its
weight and position, and the bias. -/
structure Decoder where
  label : List Nat
  code : Nat
  place : Nat
  bias : Nat
  before : Nat
  weight : Nat
  position : Nat

def Decoder.step (d : Decoder) (c : Char) : Option Decoder := do
  let digit ← digit? c
  let place := d.place + digit * d.weight
  let t := threshold d.position d.bias
  if digit < t then
    let length := d.label.length + 1
    let code := d.code + place / length
    if code < 0xD800 ∨ (0xE000 ≤ code ∧ code < 0x110000) then
      let place' := place % length
      return {
        label := d.label.take place' ++ code :: d.label.drop place'
        code := code
        place := place' + 1
        bias := adapt (place - d.before) length (d.before = 0)
        before := place' + 1
        weight := 1
        position := 36 }
    else none
  else
    return { d with place := place, weight := d.weight * (36 - t), position := d.position + 36 }

/-- The characters before the last hyphen, and those after it. A hyphen with nothing before it
divides nothing. -/
def splitLast (cs : List Char) : List Char × List Char :=
  let after := cs.reverse.takeWhile (· ≠ '-')
  match (cs.reverse.drop (after.length + 1)).reverse with
  | [] => ([], cs)
  | before => (before, after.reverse)

/-- Reads a label. -/
def decode? (written : List Char) : Option (List Char) := do
  let (basic, rest) := splitLast written
  if rest.isEmpty ∨ basic.any fun c => initialCode ≤ c.toNat then none
  let start : Decoder :=
    ⟨basic.map Char.toNat, initialCode, 0, initialBias, 0, 1, 36⟩
  let done ← rest.foldlM Decoder.step start
  if done.position = 36 then some (done.label.map Char.ofNat) else none

end ReportGateway.Url.Punycode
