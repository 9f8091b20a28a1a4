import ReportGateway.Json.Token
import ReportGateway.Text.Phrase

/-!
The values of a TOML text that hold no others: strings of four kinds, numbers, and dates and times.
A float keeps its spelling, and a date or time keeps nothing but that it is one.
-/

namespace ReportGateway.Toml

open Text (Phrase)
open Text.Phrase (one span literal maybe many)

def isBlank (c : Char) : Bool := c = ' ' || c = '\t'

/-- Blanks, but no line break. -/
def blanks : Phrase Unit := discard (span isBlank)

/-- The end of a line. -/
def newline : Phrase Unit := literal "\n" <|> literal "\r\n"

/-- The characters that comments and strings may hold as they are. -/
def isPlain (c : Char) : Bool := c = '\t' || (' ' ≤ c && c.toNat ≠ 0x7F)

/-- A digit, by its value. -/
def digit (radix : Nat) : Phrase Nat := fun cs =>
  match cs with
  | c :: rest => (Radix.digit? radix c).map (·, rest)
  | [] => none

/-- So many digits, by their value. -/
def digitsExactly (radix : Nat) : (n : Nat) → Phrase (List Nat)
  | 0 => pure []
  | n + 1 => do return (← digit radix) :: (← digitsExactly radix n)

/-- Digits with single underscores between them. -/
def digits (radix : Nat) : Phrase (List Nat) := do
  let first ← digit radix
  let more ← many do
    let _ ← maybe (literal "_")
    digit radix
  return first :: more

/-- A character by the number of its code point. -/
def codePoint (length : Nat) : Phrase Char := do
  let n := Radix.value 16 (← digitsExactly 16 length)
  if n < 0xD800 ∨ (0xE000 ≤ n ∧ n < 0x110000) then return Char.ofNat n else failure

/-- A character that is written with a backslash. -/
def escape : Phrase Char := do
  literal "\\"
  let c ← one fun _ => true
  match c with
  | 'b' => return '\x08'
  | 't' => return '\t'
  | 'n' => return '\n'
  | 'f' => return '\x0c'
  | 'r' => return '\r'
  | '"' => return '"'
  | '\\' => return '\\'
  | 'u' => codePoint 4
  | 'U' => codePoint 8
  | _ => failure

/-- A string in double quotes on one line. -/
def basicString : Phrase String := do
  literal "\""
  let pieces ← many <|
    (do
      let cs ← span fun c => isPlain c && c ≠ '"' && c ≠ '\\'
      if cs.isEmpty then failure else return cs)
    <|> List.singleton <$> escape
  literal "\""
  return String.ofList pieces.flatten

/-- A string in single quotes on one line, which has no escapes. -/
def literalString : Phrase String := do
  literal "'"
  let cs ← span fun c => isPlain c && c ≠ '\''
  literal "'"
  return String.ofList cs

/-- One or two quotes in a string of several lines, when they do not end it. -/
def innerQuotes (quote : Char) : Phrase (List Char) := fun cs =>
  let quotes := cs.takeWhile (· = quote)
  if quotes.isEmpty ∨ 2 < quotes.length then none else some (quotes, cs.drop quotes.length)

/-- The quotes that end a string of several lines: three, after one or two that belong to it. -/
def closingQuotes (quote : Char) : Phrase (List Char) := fun cs =>
  let count := min 5 (cs.takeWhile (· = quote)).length
  if count < 3 then none else some (List.replicate (count - 3) quote, cs.drop count)

/-- A line break that a backslash hides, with all blanks and line breaks after it. -/
def hiddenBreak : Phrase (List Char) := do
  literal "\\"
  blanks
  newline
  discard (many (newline <|> discard (one isBlank)))
  return []

/-- A string of several lines, by its quote and its other pieces. -/
def longString (quote : Char) (piece : Phrase (List Char)) : Phrase String := do
  literal (String.ofList [quote, quote, quote])
  discard (maybe newline)
  let pieces ← many (piece <|> (do newline; return ['\n']) <|> innerQuotes quote)
  let last ← closingQuotes quote
  return String.ofList (pieces.flatten ++ last)

def longBasicString : Phrase String :=
  longString '"' <|
    (do
      let cs ← span fun c => isPlain c && c ≠ '"' && c ≠ '\\'
      if cs.isEmpty then failure else return cs)
    <|> hiddenBreak <|> List.singleton <$> escape

def longLiteralString : Phrase String :=
  longString '\'' do
    let cs ← span fun c => isPlain c && c ≠ '\''
    if cs.isEmpty then failure else return cs

def string : Phrase String :=
  longBasicString <|> longLiteralString <|> basicString <|> literalString

/-- A sign, if there is one: whether it is a minus. -/
def sign : Phrase Bool :=
  (do literal "-"; return true) <|> (do literal "+"; return false) <|> pure false

/-- The digits of a decimal number, without a zero in front of others. -/
def wholeDigits : Phrase (List Nat) :=
  (do
    let ds ← digits 10
    if ds.head? = some 0 then failure else return ds)
  <|> (do literal "0"; return [0])

/-- The integers that can be written. -/
def inRange (n : Int) : Bool := -Int.pow 2 63 ≤ n && n < Int.pow 2 63

/-- An integer with a radix, after the letter that names it. -/
def radixInteger (mark : String) (radix : Nat) : Phrase Int := do
  literal mark
  return Radix.value radix (← digits radix)

def decimalInteger : Phrase Int := do
  let negative ← sign
  let n : Int := Radix.value 10 (← wholeDigits)
  return if negative then -n else n

def integer : Phrase Int := do
  let n ← radixInteger "0x" 16 <|> radixInteger "0o" 8 <|> radixInteger "0b" 2 <|> decimalInteger
  if inRange n then return n else failure

/-- The exponent of a float. -/
def exponent : Phrase (Bool × List Nat) := do
  literal "e" <|> literal "E"
  let negative ← sign
  return (negative, ← digits 10)

/-- The least number that is too large to be a float is half a unit above the largest float. -/
def floatLimit : Nat := Nat.pow 2 1024 - Nat.pow 2 970

/-- Whether a number, given by its digits and a power of ten, is too large to be a float. -/
def exceedsFloat (ds : List Nat) (power : Int) : Bool :=
  let ds := ds.dropWhile (· = 0)
  let magnitude : Int := ds.length + power
  if ds.isEmpty then false
  else if magnitude > 400 then true
  else if magnitude < 300 then false
  else floatLimit * Nat.pow 10 (-power).toNat ≤ Radix.value 10 ds * Nat.pow 10 power.toNat

/-- A float with digits. -/
def decimalFloat : Phrase Json.Literal := do
  let negative ← sign
  let whole ← wholeDigits
  let fraction ← maybe do
    literal "."
    digits 10
  let exponent ← maybe exponent
  if fraction.isNone ∧ exponent.isNone then failure
  let power : Int :=
    match exponent with
    | none => 0
    | some (true, ds) => -(Radix.value 10 ds : Int)
    | some (false, ds) => Radix.value 10 ds
  let fraction := fraction.getD []
  if !negative ∧ exceedsFloat (whole ++ fraction) (power - fraction.length) then failure
  return { negative, whole, fraction, exponent }

/-- A float: a number with a point or an exponent, infinity, or none at all. -/
def float : Phrase Unit :=
  discard decimalFloat <|> do
    discard sign
    literal "inf" <|> literal "nan"

/-- So many digits with a value between two bounds. -/
def bounded (length low high : Nat) : Phrase Nat := do
  let n := Radix.value 10 (← digitsExactly 10 length)
  if low ≤ n ∧ n ≤ high then return n else failure

def isLeapYear (year : Nat) : Bool := year % 4 = 0 && (year % 100 ≠ 0 || year % 400 = 0)

def daysIn (year month : Nat) : Nat :=
  match month with
  | 2 => if isLeapYear year then 29 else 28
  | 4 | 6 | 9 | 11 => 30
  | _ => 31

def date : Phrase Unit := do
  let year ← bounded 4 0 9999
  literal "-"
  let month ← bounded 2 1 12
  literal "-"
  discard (bounded 2 1 (daysIn year month))

def time : Phrase Unit := do
  discard (bounded 2 0 23)
  literal ":"
  discard (bounded 2 0 59)
  literal ":"
  discard (bounded 2 0 60)
  discard <| maybe do
    literal "."
    discard (digit 10)
    span Char.isDigit

/-- The offset of a time from the universal one. -/
def offset : Phrase Unit :=
  literal "Z" <|> literal "z" <|> do
    literal "+" <|> literal "-"
    discard (bounded 2 0 23)
    literal ":"
    discard (bounded 2 0 59)

def dateTime : Phrase Unit :=
  (do
    date
    discard <| maybe do
      discard (one fun c => c = 'T' || c = 't' || c = ' ')
      time
      maybe offset)
  <|> time

end ReportGateway.Toml
