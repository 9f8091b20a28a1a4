import ReportGateway.Text.Radix

/-!
Universally unique identifiers, which name clusters. A `Uuid` is its 128 bits. It may be spelled as
32 hexadecimal digits, with hyphens, with hyphens in braces, or with hyphens after `urn:uuid:`, in
any letter case; its canonical spelling has hyphens and lower-case digits.
-/

namespace ReportGateway

/-- An identifier, by its bits. -/
structure Uuid where
  bits : BitVec 128
deriving DecidableEq

namespace Uuid

/-- The identifier of 32 hexadecimal digits, most significant first. -/
def ofDigits (ds : List Nat) : Uuid := ⟨BitVec.ofNat 128 (Radix.value 16 ds)⟩

/-- The identifier of 16 random bytes. Six of its bits say that it is random. -/
def ofRandom (bytes : List UInt8) : Uuid :=
  let n := (bytes.take 16).foldl (fun n b => 256 * n + b.toNat) 0
  let fixed := BitVec.ofNat 128 (0xF000 * Nat.pow 2 64 + 0xC * Nat.pow 2 60)
  let cleared := BitVec.ofNat 128 n &&& ~~~fixed
  ⟨cleared ||| BitVec.ofNat 128 (0x4000 * Nat.pow 2 64 + 0x8 * Nat.pow 2 60)⟩

/-- The 32 hexadecimal digits of an identifier, most significant first. -/
def digits (u : Uuid) : List Nat :=
  (List.range 32).map fun i => u.bits.toNat / Nat.pow 16 (31 - i) % 16

/-- Reads 32 hexadecimal digits. -/
def ofPlain? (cs : List Char) : Option Uuid :=
  if cs.length = 32 then (cs.mapM (Radix.digit? 16)).map ofDigits else none

/-- Reads digits in groups of 8, 4, 4, 4 and 12 with hyphens between them. -/
def ofHyphenated? (cs : List Char) : Option Uuid :=
  if cs.length = 36 ∧ cs[8]? = some '-' ∧ cs[13]? = some '-' ∧ cs[18]? = some '-'
      ∧ cs[23]? = some '-' then
    ofPlain? (cs.take 8 ++ (cs.drop 9).take 4 ++ (cs.drop 14).take 4 ++ (cs.drop 19).take 4
      ++ cs.drop 24)
  else none

/-- The letters before an identifier that is written as a name. -/
def urn : List Char := "urn:uuid:".toList

/-- Reads any spelling. -/
def parse? (s : String) : Option Uuid :=
  let cs := s.toList
  if cs.length = 32 then ofPlain? cs
  else if cs.length = 36 then ofHyphenated? cs
  else if cs.length = 38 then
    if cs.head? = some '\x7b' ∧ cs.getLast? = some '\x7d' then ofHyphenated? (cs.drop 1).dropLast
    else none
  else if cs.length = 45 then
    if (cs.take 9).map Char.toLower = urn then ofHyphenated? (cs.drop 9) else none
  else none

/-- The canonical spelling. -/
def text (u : Uuid) : String :=
  let cs := u.digits.map Radix.char
  String.ofList (cs.take 8 ++ '-' :: (cs.drop 8).take 4 ++ '-' :: (cs.drop 12).take 4
    ++ '-' :: (cs.drop 16).take 4 ++ '-' :: cs.drop 20)

/-- The pieces of a text between commas. -/
def pieces (s : String) : List String :=
  (s.toList.splitOn ',').map String.ofList

/-- Reads a list of identifiers between commas; empty pieces are passed over. -/
def parseList? (s : String) : Option (List Uuid) :=
  ((pieces s).filter fun p => p ≠ "").mapM parse?

end Uuid

end ReportGateway
