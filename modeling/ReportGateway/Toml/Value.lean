import ReportGateway.Json.Document
import ReportGateway.Toml.Scalar

/-!
Keys and values of a TOML text, and the tables that they make up. A table knows how it came about: a
header names it, or it stands on the way to one, or a dotted key goes through it. What came about
one way cannot be added to another way. A value becomes a document of the same shape; a date or time
becomes an object without a member of any name that is asked for.
-/

namespace ReportGateway.Toml

open Json (Document)
open Text (Phrase)
open Text.Phrase (one span literal maybe many)

/-- How a table came about. -/
inductive Origin
  /-- A header names it. -/
  | header
  /-- It is on the way to a table that a header names. -/
  | path
  /-- A dotted key goes through it. -/
  | dotted
deriving DecidableEq

/-- What a name stands for in a table. -/
inductive Item
  | value (d : Document)
  | table (origin : Origin) (items : List (String × Item))
  /-- The tables of a repeated header, last one first. -/
  | tables (list : List (List (String × Item)))

/-- What a table holds, by name and in order. -/
abbrev Items : Type := List (String × Item)

namespace Items

/-- Sets an item; a name that is there keeps its place. -/
def set (name : String) (item : Item) : Items → Items
  | [] => [(name, item)]
  | (n, i) :: rest => if n = name then (n, item) :: rest else (n, i) :: set name item rest

/-- Adds a value under a dotted key. The tables that the key goes through must have come about by
dotted keys, and the value must be new. -/
def assign (value : Document) (name : String) : (parents : List String) → Items → Option Items
  | [], items =>
    if (items.lookup name).isSome then none else some (items ++ [(name, .value value)])
  | parent :: more, items =>
    match items.lookup parent with
    | none => do return items ++ [(parent, .table .dotted (← assign value name more []))]
    | some (.table origin inner) =>
      if origin = .header ∨ (more.isEmpty ∧ origin ≠ .dotted) then none
      else do return set parent (.table origin (← assign value name more inner)) items
    | some (.tables (inner :: earlier)) =>
      if more.isEmpty then none
      else do return set parent (.tables ((← assign value name more inner) :: earlier)) items
    | _ => none

end Items

mutual
/-- An item as a document. -/
def Item.document : Item → Document
  | .value d => d
  | .table _ items => .object (membersOf items)
  | .tables list => .array (documentsOf list).reverse

def membersOf : List (String × Item) → List (Option String × Document)
  | [] => []
  | (name, item) :: rest => (some name, item.document) :: membersOf rest

def documentsOf : List (List (String × Item)) → List Document
  | [] => []
  | items :: rest => .object (membersOf items) :: documentsOf rest
end

/-- How deep values may nest, and how many parts a key may have. -/
def depthLimit : Nat := 80

def simpleKey : Phrase String :=
  (do
    let cs ← span fun c => c.isAlphanum || c = '_' || c = '-'
    if cs.isEmpty then failure else return String.ofList cs)
  <|> basicString <|> literalString

/-- A key with its parts: those before the last point, and the last one. -/
def key : Phrase (List String × String) := do
  blanks
  let first ← simpleKey
  blanks
  let more ← many do
    literal "."
    blanks
    let part ← simpleKey
    blanks
    return part
  if more.length + 1 < depthLimit then
    match more.getLast? with
    | none => return ([], first)
    | some last => return (first :: more.dropLast, last)
  else failure

def comment : Phrase Unit := do
  literal "#"
  discard (span isPlain)

/-- What may stand between the items of an array. -/
def gap : Phrase Unit :=
  discard (many (discard (one isBlank) <|> newline <|> (do comment; newline)))

/-- An array with the given items. -/
def array (item : Phrase Document) : Phrase Document := do
  literal "["
  let spaced : Phrase Document := do
    gap
    let d ← item
    gap
    return d
  let items ← maybe do
    let first ← spaced
    let more ← many do
      literal ","
      spaced
    discard (maybe (literal ","))
    return first :: more
  gap
  literal "]"
  return .array (items.getD [])

/-- A table on one line with the given values. -/
def inlineTable (value : Phrase Document) : Phrase Document := do
  literal "\x7b"
  let pair : Phrase ((List String × String) × Document) := do
    let k ← key
    literal "="
    blanks
    let d ← value
    blanks
    return (k, d)
  let pairs ← maybe do
    let first ← pair
    let more ← many do
      literal ","
      pair
    return first :: more
  blanks
  literal "\x7d"
  let add (items : Items) (pair : (List String × String) × Document) : Option Items :=
    items.assign pair.2 pair.1.2 pair.1.1
  match (pairs.getD []).foldlM add [] with
  | some items => return .object (membersOf items)
  | none => failure

/-- What stands for the floats that no digits name. -/
def unnamedFloat : Json.Literal :=
  { negative := false, whole := [0], fraction := [0], exponent := none }

/-- A value without others in it. -/
def scalar : Phrase Document :=
  (do return .string (some (← string)))
  <|> (do dateTime; return .object [(some "date-time", .null)])
  <|> (do return .number (← decimalFloat))
  <|> (do float; return .number unnamedFloat)
  <|> (do return .number (.ofInt (← integer)))
  <|> (do literal "true"; return .bool true)
  <|> (do literal "false"; return .bool false)

/-- A value with at most so many levels of nesting. -/
def value : (room : Nat) → Phrase Document
  | 0 => scalar
  | room + 1 => scalar <|> array (value room) <|> inlineTable (value room)

end ReportGateway.Toml
