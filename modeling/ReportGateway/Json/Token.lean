import ReportGateway.Text.Decimal
import ReportGateway.Text.Radix

/-!
The tokens of a JSON text. A text is a list of bytes; the scanner goes through it once, one byte at
a time, and keeps what it has seen of an unfinished word, number or string. A string is kept as its
raw bytes and escaped code units until it closes: a string that is not UTF-8, or that escapes a lone
surrogate, is still a token, but one that names no text.
-/

namespace ReportGateway.Json

/-- The spelling of a number: sign, digits before and after the point, and the exponent with its
sign. Digits stand most significant first. -/
structure Literal where
  negative : Bool
  whole : List Nat
  fraction : List Nat
  exponent : Option (Bool × List Nat)
deriving DecidableEq

namespace Literal

/-- A literal is integral when it has neither a point nor an exponent. -/
def integral (l : Literal) : Bool := l.fraction.isEmpty && l.exponent.isNone

def isDigit (b : UInt8) : Bool := 48 ≤ b && b ≤ 57

/-- The leading digits of a text, and what follows them. -/
def spanDigits (bs : List UInt8) : List Nat × List UInt8 :=
  ((bs.takeWhile isDigit).map fun b => (b - 48).toNat, bs.dropWhile isDigit)

/-- The digits before the point: at least one, and no zero before another digit. -/
def whole? (bs : List UInt8) : Option (List Nat × List UInt8) :=
  match spanDigits bs with
  | ([], _) => none
  | (0 :: _ :: _, _) => none
  | found => some found

/-- The digits after a point, if there is one; a point needs a digit. -/
def fraction? : List UInt8 → Option (List Nat × List UInt8)
  | 46 :: rest =>
    match spanDigits rest with
    | ([], _) => none
    | found => some found
  | rest => some ([], rest)

/-- The exponent that ends a literal, if there is one. -/
def exponent? : List UInt8 → Option (Option (Bool × List Nat))
  | [] => some none
  | e :: rest =>
    if e = 101 ∨ e = 69 then
      let (negative, rest) :=
        match rest with
        | 45 :: r => (true, r)
        | 43 :: r => (false, r)
        | r => (false, r)
      match spanDigits rest with
      | ([], _) => none
      | (ds, []) => some (some (negative, ds))
      | _ => none
    else none

/-- Reads a whole byte sequence as a number. -/
def ofBytes? (bs : List UInt8) : Option Literal := do
  let (negative, bs) :=
    match bs with
    | 45 :: r => (true, r)
    | r => (false, r)
  let (whole, bs) ← whole? bs
  let (fraction, bs) ← fraction? bs
  let exponent ← exponent? bs
  return { negative, whole, fraction, exponent }

/-- The literal of an integer. -/
def ofInt (n : Int) : Literal :=
  { negative := n < 0, whole := Decimal.digits n.natAbs, fraction := [], exponent := none }

end Literal

/-- A part of a string's content: a byte as it stands, or a code unit written as an escape. -/
inductive Piece
  | byte (b : UInt8)
  | unit (n : Nat)
deriving DecidableEq

/-- The bytes that the pieces of a string stand for. A high surrogate joins with the low one right
after it; any other surrogate stands for nothing. -/
def resolve : List Piece → Option (List UInt8)
  | [] => some []
  | .byte b :: rest => (resolve rest).map (b :: ·)
  | .unit high :: .unit low :: rest =>
    if 0xD800 ≤ high ∧ high < 0xDC00 then
      if 0xDC00 ≤ low ∧ low < 0xE000 then
        let code := (high - 0xD800) * 0x400 + (low - 0xDC00) + 0x10000
        (resolve rest).map (String.utf8EncodeChar (Char.ofNat code) ++ ·)
      else none
    else if 0xDC00 ≤ high ∧ high < 0xE000 then none
    else (resolve (.unit low :: rest)).map (String.utf8EncodeChar (Char.ofNat high) ++ ·)
  | .unit n :: rest =>
    if 0xD800 ≤ n ∧ n < 0xE000 then none
    else (resolve rest).map (String.utf8EncodeChar (Char.ofNat n) ++ ·)

/-- The text that the pieces of a string name, if they name one. -/
def Piece.text? (pieces : List Piece) : Option String := do
  let bytes ← resolve pieces
  String.fromUTF8? ⟨bytes.toArray⟩

/-- What a JSON text is made of. -/
inductive Token
  | beginArray
  | endArray
  | beginObject
  | endObject
  | colon
  | comma
  | null
  | bool (b : Bool)
  | number (l : Literal)
  | string (text : Option String)
deriving DecidableEq

/-- Where the scanner stands: between tokens, or inside one whose beginning it has seen. What was
seen is kept last piece first. -/
inductive Mode
  | between
  | word (seen : List UInt8)
  | number (seen : List UInt8)
  | content (seen : List Piece)
  | escape (seen : List Piece)
  | hex (seen : List Piece) (wanted : Nat) (code : Nat)
deriving DecidableEq

/-- The scanner: its mode, and the tokens found so far, last one first. -/
structure Scan where
  mode : Mode
  found : List Token
deriving DecidableEq

namespace Scan

def start : Scan := ⟨.between, []⟩

def isBlank (b : UInt8) : Bool := b = 32 || b = 9 || b = 10 || b = 13

def isLetter (b : UInt8) : Bool := 97 ≤ b && b ≤ 122

/-- The bytes that can continue a number: digits, signs, the point and the exponent marks. -/
def isNumeric (b : UInt8) : Bool :=
  Literal.isDigit b || b = 43 || b = 45 || b = 46 || b = 69 || b = 101

/-- The tokens that are words. -/
def word? (seen : List UInt8) : Option Token :=
  if seen = [101, 117, 114, 116] then some (.bool true)
  else if seen = [101, 115, 108, 97, 102] then some (.bool false)
  else if seen = [108, 108, 117, 110] then some .null
  else none

/-- The byte that a one-letter escape stands for. -/
def escaped? (b : UInt8) : Option UInt8 :=
  match b with
  | 34 => some 34
  | 92 => some 92
  | 47 => some 47
  | 98 => some 8
  | 102 => some 12
  | 110 => some 10
  | 114 => some 13
  | 116 => some 9
  | _ => none

/-- Takes a byte between two tokens. -/
def next (found : List Token) (b : UInt8) : Option Scan :=
  if isBlank b then some ⟨.between, found⟩
  else if b = 91 then some ⟨.between, .beginArray :: found⟩
  else if b = 93 then some ⟨.between, .endArray :: found⟩
  else if b = 123 then some ⟨.between, .beginObject :: found⟩
  else if b = 125 then some ⟨.between, .endObject :: found⟩
  else if b = 58 then some ⟨.between, .colon :: found⟩
  else if b = 44 then some ⟨.between, .comma :: found⟩
  else if b = 34 then some ⟨.content [], found⟩
  else if b = 45 || Literal.isDigit b then some ⟨.number [b], found⟩
  else if isLetter b then some ⟨.word [b], found⟩
  else none

/-- Takes one byte. -/
def step (s : Scan) (b : UInt8) : Option Scan :=
  match s.mode with
  | .between => next s.found b
  | .word seen =>
    if isLetter b then some ⟨.word (b :: seen), s.found⟩
    else do next ((← word? seen) :: s.found) b
  | .number seen =>
    if isNumeric b then some ⟨.number (b :: seen), s.found⟩
    else do next (.number (← Literal.ofBytes? seen.reverse) :: s.found) b
  | .content seen =>
    if b = 34 then some ⟨.between, .string (Piece.text? seen.reverse) :: s.found⟩
    else if b = 92 then some ⟨.escape seen, s.found⟩
    else if b < 32 then none
    else some ⟨.content (.byte b :: seen), s.found⟩
  | .escape seen =>
    if b = 117 then some ⟨.hex seen 4 0, s.found⟩
    else do return ⟨.content (.byte (← escaped? b) :: seen), s.found⟩
  | .hex seen wanted code => do
    let code := 16 * code + (← Radix.hexDigit? b)
    if wanted ≤ 1 then return ⟨.content (.unit code :: seen), s.found⟩
    else return ⟨.hex seen (wanted - 1) code, s.found⟩

/-- Takes the end of the text. -/
def finish (s : Scan) : Option (List Token) :=
  match s.mode with
  | .between => some s.found.reverse
  | .word seen => do return ((← word? seen) :: s.found).reverse
  | .number seen => do return (.number (← Literal.ofBytes? seen.reverse) :: s.found).reverse
  | _ => none

end Scan

/-- The tokens of a text, if it is made of tokens. -/
def tokens? (bytes : List UInt8) : Option (List Token) := do
  (← bytes.foldlM Scan.step Scan.start).finish

end ReportGateway.Json
