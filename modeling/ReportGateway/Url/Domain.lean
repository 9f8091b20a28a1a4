import ReportGateway.Text.Canonical
import ReportGateway.Text.Utf8
import ReportGateway.Url.Domain.Direction
import ReportGateway.Url.Domain.Excluded
import ReportGateway.Url.Domain.Joiner
import ReportGateway.Url.Domain.Mapping
import ReportGateway.Url.Punycode

/-!
Domain names in their ASCII form. A name is mapped to the one spelling of all that look the same,
and cut into labels at its full stops. A label with other characters than ASCII is written in
Punycode after `xn--`, and a label that comes like this must stand for one that would be written so.
Only the length of labels that are written in Punycode is limited.
-/

namespace ReportGateway.Url.Domain

/-- The ASCII characters that cannot stand in a domain name. -/
def isForbidden (n : Nat) : Bool :=
  n ≤ 0x20 || n = 0x7F || "%#/:<>?@[\\]^|".toList.any (·.toNat = n)

def isAscii (n : Nat) : Bool := n < 0x80

/-- What a character is mapped to, part by part. -/
def mappedParts (n : Nat) : List Nat := (Text.Canonical.parts n).flatMap mapped

/-- The one spelling of all names that look the same. Characters are mapped where they stand, and
only then are marks put in order. -/
def normalize (ns : List Nat) : List Nat :=
  Text.Canonical.compose (Text.Canonical.decompose (ns.flatMap mappedParts))

/-- The letters before a label in Punycode. -/
def mark : List Char := ['x', 'n', '-', '-']

def points (cs : List Char) : List Nat := cs.map Char.toNat

/-- The greatest number of characters of a label that is not in ASCII. -/
def maxLength : Nat := 1000

/-- The greatest number of characters after the mark of a label in Punycode. -/
def maxWritten : Nat := 2000

/-- The label that a label stands for. -/
def decodeLabel? (label : List Nat) : Option (List Nat) :=
  if label.take 4 = points mark then do
    let written := label.drop 4
    if written.length > maxWritten then none
    let decoded := points (← Punycode.decode? (written.map Char.ofNat))
    if decoded.all isAscii ∨ normalize decoded ≠ decoded then none else some decoded
  else some label

/-- Whether a label may be part of a name. -/
def isLabel (label : List Nat) : Bool :=
  label.all (fun n => !isForbidden n && !excluded.contains n)
    && !label.head?.any isMark && Joiner.accepts label
    && (label.all isAscii || label.length ≤ maxLength)

def encodeLabel (label : List Nat) : List Char :=
  let cs := label.map Char.ofNat
  if label.all isAscii then cs else mark ++ Punycode.encode cs

/-- The ASCII form of a domain name given as bytes, if it has one. -/
def toAscii? (bytes : List UInt8) : Option (List Char) := do
  let name ← Utf8.decode? bytes
  let labels ← ((normalize (points name.toList)).splitOn '.'.toNat).mapM decodeLabel?
  if labels.all isLabel ∧ Direction.acceptsAll labels then
    return ['.'].intercalate (labels.map encodeLabel)
  else none

end ReportGateway.Url.Domain
