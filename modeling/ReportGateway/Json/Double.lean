import ReportGateway.Json.Token

/-!
Double-precision numbers in JSON texts, kept as their 64 bits. `ofLiteral?` reads a literal the
quick way: the first digits that fit 64 bits become a double and are scaled by one power of ten, so
each of the two steps rounds once. `text` writes the fewest digits that single a double out among
its neighbours, positional from 10⁻⁵ up to 10¹⁶ and with an exponent elsewhere.
-/

namespace ReportGateway.Json

/-- A finite double by its bits. -/
structure Double where
  bits : UInt64
deriving DecidableEq

namespace Double

/-- A significand below 2⁶⁴ and the power of ten it is scaled by. -/
structure Scaled where
  significand : Nat
  exponent : Int

/-- Digits before the point: once one does not fit, it and all later ones only scale. -/
def takeWhole (s : Scaled) : List Nat → Scaled
  | [] => s
  | d :: ds =>
    let grown := s.significand * 10 + d
    if grown < Nat.pow 2 64 then takeWhole { s with significand := grown } ds
    else { s with exponent := s.exponent + (d :: ds).length }

/-- Digits after the point: once one does not fit, it and all later ones are dropped. -/
def takeFraction (s : Scaled) : List Nat → Scaled
  | [] => s
  | d :: ds =>
    let grown := s.significand * 10 + d
    if grown < Nat.pow 2 64 then takeFraction ⟨grown, s.exponent - 1⟩ ds else s

/-- The greatest exponent that is still taken at its value. -/
def exponentLimit : Nat := Nat.pow 2 31 - 1

def powerOfTen (n : Nat) : Float := Float.ofScientific 1 false n

/-- Divides by a power of ten, in steps of at most 10³⁰⁸. -/
def scaleDown (f : Float) (n : Nat) : Float :=
  if n ≤ 308 then f / powerOfTen n
  else if f == 0 then f
  else scaleDown (f / powerOfTen 308) (n - 308)
termination_by n
decreasing_by omega

/-- The double of a scaled significand, unless it is too large to be one. -/
def ofScaled? (s : Scaled) : Option Float :=
  let f := s.significand.toUInt64.toFloat
  if s.exponent < 0 then some (scaleDown f s.exponent.natAbs)
  else if s.exponent ≤ 308 then
    let f := f * powerOfTen s.exponent.natAbs
    if f.isInf then none else some f
  else if f == 0 then some f
  else none

/-- The double that a literal is read as; none when it is out of range. -/
def ofLiteral? (l : Literal) : Option Double := do
  let s := takeFraction (takeWhole ⟨0, 0⟩ l.whole) l.fraction
  let f ←
    match l.exponent with
    | none => ofScaled? s
    | some (negative, ds) =>
      let e := Decimal.value ds
      if e > exponentLimit then
        if s.significand = 0 ∨ negative then some 0.0 else none
      else
        let exponent := if negative then s.exponent - (e : Int) else s.exponent + (e : Int)
        ofScaled? { s with exponent }
  return ⟨(if l.negative then -f else f).toBits⟩

/-- The exact value of a positive double is `mantissa * 2 ^ exponent`. -/
def decompose (bits : UInt64) : Nat × Int :=
  let biased := ((bits >>> 52) &&& 0x7FF).toNat
  let fraction := (bits &&& 0xFFFFFFFFFFFFF).toNat
  if biased = 0 then (fraction, -1074) else (fraction + Nat.pow 2 52, (biased : Int) - 1075)

/-- Numbers on the grid of quarters of the last place: a double is at four times its mantissa, and
the numbers that round to it lie between these two bounds, which belong to it when the mantissa is
even. -/
def bounds (bits : UInt64) : Nat × Nat :=
  let (m, _) := decompose bits
  let below := if m = Nat.pow 2 52 ∧ (bits >>> 52) &&& 0x7FF ≠ 1 then 4 * m - 1 else 4 * m - 2
  (below, 4 * m + 2)

/-- Compares `a * 2 ^ p` with `d * 10 ^ q` without rounding. -/
def scaledLE (a : Nat) (p : Int) (d : Nat) (q : Int) : Bool :=
  let left := a * Nat.pow 2 p.toNat * Nat.pow 10 (-q).toNat
  let right := d * Nat.pow 10 q.toNat * Nat.pow 2 (-p).toNat
  left ≤ right

def scaledGE (a : Nat) (p : Int) (d : Nat) (q : Int) : Bool :=
  let left := a * Nat.pow 2 p.toNat * Nat.pow 10 (-q).toNat
  let right := d * Nat.pow 10 q.toNat * Nat.pow 2 (-p).toNat
  right ≤ left

/-- Whether `d * 10 ^ q` rounds to the double. -/
def hits (bits : UInt64) (d : Nat) (q : Int) : Bool :=
  let (m, e) := decompose bits
  let (low, high) := bounds bits
  if m % 2 = 0 then scaledLE low (e - 2) d q && scaledGE high (e - 2) d q
  else !scaledGE low (e - 2) d q && !scaledLE high (e - 2) d q

/-- The distance of `d * 10 ^ q` from the double, on a grid fine enough for both. -/
def distance (bits : UInt64) (d : Nat) (q : Int) : Nat :=
  let (m, e) := decompose bits
  let value := m * Nat.pow 2 e.toNat * Nat.pow 10 (-q).toNat
  let other := d * Nat.pow 10 q.toNat * Nat.pow 2 (-e).toNat
  (value - other) + (other - value)

/-- The greatest `d` with `d * 10 ^ q` not above the double. -/
def gridFloor (bits : UInt64) (q : Int) : Nat :=
  let (m, e) := decompose bits
  (m * Nat.pow 2 e.toNat * Nat.pow 10 (-q).toNat) / (Nat.pow 10 q.toNat * Nat.pow 2 (-e).toNat)

/-- The place of the leading digit: the double is at least `10 ^ place` and below the next power. -/
def leadingPlace (bits : UInt64) : Int :=
  let (m, e) := decompose bits
  let wide := m * Nat.pow 2 e.toNat * Nat.pow 10 400 / Nat.pow 2 (-e).toNat
  ((Decimal.digits wide).length : Int) - 401

/-- The coarsest decimal grid of at most seventeen digits on which a neighbour of the double rounds
to it, tried from `digits` on, and the nearer neighbour there. -/
def shortestFrom (bits : UInt64) (place : Int) : (left digits : Nat) → Nat × Int
  | 0, digits =>
    let q := place - digits + 1
    (gridFloor bits q, q)
  | left + 1, digits =>
    let q := place - digits + 1
    let low := gridFloor bits q
    match hits bits low q, hits bits (low + 1) q with
    | true, true =>
      let below := distance bits low q
      let above := distance bits (low + 1) q
      if below < above ∨ (below = above ∧ low % 2 = 0) then (low, q) else (low + 1, q)
    | true, false => (low, q)
    | false, true => (low + 1, q)
    | false, false => shortestFrom bits place left (digits + 1)

/-- Drops trailing zeros of the digits into the power of ten. -/
def dropZeros (d : Nat) (q : Int) : Nat × Int :=
  if d ≠ 0 ∧ d % 10 = 0 then dropZeros (d / 10) (q + 1) else (d, q)
termination_by d
decreasing_by omega

/-- The fewest digits that read back as a positive double, and their power of ten. -/
def shortest (bits : UInt64) : Nat × Int :=
  let (d, q) := shortestFrom bits (leadingPlace bits) 17 1
  dropZeros d q

def zeros (n : Nat) : String := String.ofList (List.replicate n '0')

/-- Writes digits and a power of ten. -/
def layout (d : Nat) (q : Int) : String :=
  let ds := Decimal.text d
  let length : Int := ds.length
  let point := length + q
  if 0 ≤ q ∧ point ≤ 16 then ds ++ zeros q.toNat ++ ".0"
  else if 0 < point ∧ point ≤ 16 then
    String.ofList (ds.toList.take point.toNat) ++ "." ++ String.ofList (ds.toList.drop point.toNat)
  else if -5 < point ∧ point ≤ 0 then "0." ++ zeros (-point).toNat ++ ds
  else
    let rest := String.ofList (ds.toList.drop 1)
    let head := String.ofList (ds.toList.take 1)
    (if rest.isEmpty then head else head ++ "." ++ rest) ++ "e" ++ Decimal.intText (point - 1)

/-- A finite double as text. -/
def text (x : Double) : String :=
  let magnitude := x.bits &&& 0x7FFFFFFFFFFFFFFF
  let sign := if x.bits = magnitude then "" else "-"
  if magnitude = 0 then sign ++ "0.0"
  else
    let (d, q) := shortest magnitude
    sign ++ layout d q

end Double

end ReportGateway.Json
