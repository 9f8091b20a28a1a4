import ReportGateway.Url.Reader

/-!
Queries. A query may be set as text, or hold pairs of names and values in the form encoding, where a
plus sign stands for a space and every byte but letters, digits and `*-._` is escaped.
-/

namespace ReportGateway.Url

/-- Sets or removes the query, given as text. -/
def setQuery (u : Url) (query : Option String) : Url :=
  let queryClass := if u.special then Percent.specialQuery else Percent.query
  { u with query := query.map fun s => Percent.encode queryClass (s.toList.filter (!isIgnored ·)) }

namespace Form

def isPlain (b : UInt8) : Bool :=
  (48 ≤ b && b ≤ 57) || (65 ≤ b && b ≤ 90) || (97 ≤ b && b ≤ 122) || b = 42 || b = 45 || b = 46
    || b = 95

def encodeByte (b : UInt8) : List Char :=
  if b = 32 then ['+'] else if isPlain b then [Char.ofNat b.toNat] else Percent.escape b

/-- A name or value as it is written. -/
def encode (s : String) : String := String.ofList ((Utf8.encode s).flatMap encodeByte)

/-- The text that a written name or value stands for. -/
def decode (bytes : List UInt8) : String :=
  Utf8.decodeLossy (Percent.decodeBytes (bytes.map fun b => if b = 43 then 32 else b))

/-- The pairs of a query; a piece without an equals sign is a name with an empty value. -/
def pairs (query : String) : List (String × String) :=
  ((splitAtAll (· = 38) (Utf8.encode query)).filter (· ≠ [])).map fun piece =>
    (decode (piece.takeWhile (· ≠ 61)), decode ((piece.dropWhile (· ≠ 61)).drop 1))

/-- The value of a name; the last pair of the name counts. -/
def value? (query : String) (name : String) : Option String :=
  (pairs query).reverse.lookup name

end Form

/-- Adds a pair at the end of the query. -/
def appendPair (u : Url) (name value : String) : Url :=
  let pair := Form.encode name ++ "=" ++ Form.encode value
  let query :=
    match u.query with
    | none => pair
    | some "" => pair
    | some q => q ++ "&" ++ pair
  { u with query := some query }

end ReportGateway.Url
