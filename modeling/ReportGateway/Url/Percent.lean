import ReportGateway.Text.Radix
import ReportGateway.Text.Utf8

/-!
Percent-encoding. A class says which ASCII characters are escaped in one part of a URL; every other
character outside ASCII is escaped byte by byte. Decoding takes an escape for its byte and leaves a
percent sign that starts none as it is.
-/

namespace ReportGateway.Url.Percent

/-- A class of ASCII characters that are escaped. -/
abbrev Class : Type := Char → Bool

def control : Class := fun c => c.toNat < 0x20 || c.toNat = 0x7F

def oneOf (chars : String) (c : Char) : Bool := chars.toList.contains c

def fragment : Class := fun c => control c || oneOf " \"<>`" c

def path : Class := fun c => fragment c || oneOf "#?\x7b\x7d" c

def userinfo : Class := fun c => path c || oneOf "/:;=@[\\]^|" c

/-- A single segment of a path: nothing in it can end it or be taken for an escape. -/
def segment : Class := fun c => path c || oneOf "/%" c

/-- A single segment in a URL where a backslash separates segments too. -/
def specialSegment : Class := fun c => segment c || c = '\\'

def query : Class := fun c => control c || oneOf " \"#<>" c

def specialQuery : Class := fun c => query c || c = '\''

/-- The character of a digit in an escape. -/
def escapeDigit (n : Nat) : Char := (Radix.char n).toUpper

/-- The escape of a byte. -/
def escape (b : UInt8) : List Char := ['%', escapeDigit (b.toNat / 16), escapeDigit (b.toNat % 16)]

/-- A character as it is written where `escaped` is the class of escaped characters. -/
def encodeChar (escaped : Class) (c : Char) : List Char :=
  if c.toNat < 0x80 ∧ !escaped c then [c] else (String.utf8EncodeChar c).flatMap escape

/-- A text as it is written where `escaped` is the class of escaped characters. -/
def encode (escaped : Class) (cs : List Char) : String :=
  String.ofList (cs.flatMap (encodeChar escaped))

/-- Takes escapes for their bytes. -/
def decodeBytes : List UInt8 → List UInt8
  | 37 :: a :: b :: rest =>
    match Radix.hexDigit? a, Radix.hexDigit? b with
    | some high, some low => (16 * high + low).toUInt8 :: decodeBytes rest
    | _, _ => 37 :: decodeBytes (a :: b :: rest)
  | b :: rest => b :: decodeBytes rest
  | [] => []

/-- The bytes that a percent-encoded text stands for. -/
def decode (s : String) : List UInt8 := decodeBytes (Utf8.encode s)

end ReportGateway.Url.Percent
