import ReportGateway.Text.Canonical.Composites
import ReportGateway.Text.Canonical.Order
import ReportGateway.Text.Canonical.Variants

/-!
The canonical forms of a text, given as code points. Characters that look the same may be written in
several ways: as a composite or as its parts, and with marks in different orders. `decompose` takes
a text apart as far as possible and puts the marks in order; `compose` then puts together what can
be put together.
-/

namespace ReportGateway.Text.Canonical

/-- The first Korean syllable; each has a leading consonant, a vowel and perhaps a trailing
consonant, of which there are 19, 21 and 27. -/
def syllableBase : Nat := 0xAC00

def leadBase : Nat := 0x1100

def vowelBase : Nat := 0x1161

/-- One before the first trailing consonant. -/
def trailBase : Nat := 0x11A7

def isSyllable (n : Nat) : Bool := syllableBase ≤ n && n < syllableBase + 19 * 21 * 28

/-- The parts of a Korean syllable. -/
def syllableParts (n : Nat) : List Nat :=
  let i := n - syllableBase
  let trail := if i % 28 = 0 then [] else [trailBase + i % 28]
  (leadBase + i / (21 * 28)) :: (vowelBase + i % (21 * 28) / 28) :: trail

/-- All parts of a character; one without parts is its own. -/
def parts (n : Nat) : List Nat :=
  if isSyllable n then syllableParts n
  else ((composites.image? n).or (variants.image? n)).getD [n]

/-- Puts a character after others, the last of which comes first: a mark goes in front of those of
higher classes. -/
def place (n : Nat) : List Nat → List Nat
  | [] => [n]
  | d :: before =>
    if classOf n ≠ 0 ∧ classOf n < classOf d then d :: place n before else n :: d :: before

/-- Takes a text apart. -/
def decompose (ns : List Nat) : List Nat :=
  ((ns.flatMap parts).foldl (fun before n => place n before) []).reverse

/-- The composite of a character and the one after it. -/
def composite? (a b : Nat) : Option Nat :=
  if leadBase ≤ a ∧ a < leadBase + 19 ∧ vowelBase ≤ b ∧ b < vowelBase + 21 then
    some (syllableBase + ((a - leadBase) * 21 + (b - vowelBase)) * 28)
  else if isSyllable a ∧ (a - syllableBase) % 28 = 0 ∧ trailBase < b ∧ b < trailBase + 28 then
    some (a + (b - trailBase))
  else composites.origin? (parts a ++ [b])

/-- A text that is being put together, last character first: what is settled, the last character
that does not combine, and the marks after it that stay apart. -/
structure Composing where
  settled : List Nat
  base : Option Nat
  marks : List Nat

/-- All that is put together so far, last character first. -/
def Composing.all (c : Composing) : List Nat := c.marks ++ c.base.toList ++ c.settled

/-- Goes on without joining a character to what is before it. -/
def Composing.apart (c : Composing) (n : Nat) : Composing :=
  if classOf n = 0 then ⟨c.all, some n, []⟩ else { c with marks := n :: c.marks }

/-- Goes on with a character. It joins the base unless a mark of its class or a higher one stands
between them. -/
def Composing.step (c : Composing) (n : Nat) : Composing :=
  match c.base with
  | none => c.apart n
  | some base =>
    if c.marks.head?.all (classOf · < classOf n) then
      match composite? base n with
      | some m => { c with base := some m }
      | none => c.apart n
    else c.apart n

/-- Puts the characters of a decomposed text together. -/
def compose (ns : List Nat) : List Nat :=
  (ns.foldl Composing.step ⟨[], none, []⟩).all.reverse

end ReportGateway.Text.Canonical
