/-!
UTF-8. `decode?` reads bytes that are UTF-8 throughout. `decodeLossy` reads any bytes: each longest
beginning of a character that the next byte does not continue becomes one replacement character.
-/

namespace ReportGateway.Utf8

/-- The bytes of a text. -/
def encode (s : String) : List UInt8 := s.toUTF8.data.toList

/-- The text of bytes that are UTF-8. -/
def decode? (bytes : List UInt8) : Option String := String.fromUTF8? ⟨bytes.toArray⟩

/-- The character that stands for bytes that are none. -/
def replacement : Char := '\ufffd'

/-- The beginning of a character: the bits so far, how many bytes it still needs, and the bounds of
the next one. -/
structure Begun where
  code : Nat
  owed : Nat
  low : Nat
  high : Nat

/-- A reader in the middle of a text: the characters so far, last one first. -/
structure State where
  found : List Char
  begun : Option Begun

/-- Takes a byte that does not continue a character. -/
def State.first (found : List Char) (b : Nat) : State :=
  if b < 0x80 then ⟨Char.ofNat b :: found, none⟩
  else if b < 0xC2 then ⟨replacement :: found, none⟩
  else if b < 0xE0 then ⟨found, some ⟨b % 0x20, 1, 0x80, 0xBF⟩⟩
  else if b < 0xF0 then
    let low := if b = 0xE0 then 0xA0 else 0x80
    let high := if b = 0xED then 0x9F else 0xBF
    ⟨found, some ⟨b % 0x10, 2, low, high⟩⟩
  else if b < 0xF5 then
    let low := if b = 0xF0 then 0x90 else 0x80
    let high := if b = 0xF4 then 0x8F else 0xBF
    ⟨found, some ⟨b % 0x8, 3, low, high⟩⟩
  else ⟨replacement :: found, none⟩

def State.step (s : State) (byte : UInt8) : State :=
  let b := byte.toNat
  match s.begun with
  | none => State.first s.found b
  | some p =>
    if p.low ≤ b ∧ b ≤ p.high then
      let code := p.code * 0x40 + b % 0x40
      if p.owed ≤ 1 then ⟨Char.ofNat code :: s.found, none⟩
      else ⟨s.found, some ⟨code, p.owed - 1, 0x80, 0xBF⟩⟩
    else State.first (replacement :: s.found) b

def State.finish (s : State) : List Char :=
  (if s.begun.isSome then replacement :: s.found else s.found).reverse

/-- The text of any bytes. -/
def decodeLossy (bytes : List UInt8) : String :=
  String.ofList (bytes.foldl State.step ⟨[], none⟩).finish

end ReportGateway.Utf8
