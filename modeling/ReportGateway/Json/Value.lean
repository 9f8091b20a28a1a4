import ReportGateway.Json.Document
import ReportGateway.Json.Double

/-!
JSON values and their written form. The members of an object are kept in order of their names, each
name once. `Document.value?` reads a document as a value: it refuses a string that names no text, a
number out of range and nesting that goes too deep, and the last of several members of one name
counts. `Value.encode` is the compact text of a value.
-/

namespace ReportGateway.Json

/-- A number: an integer of 64 bits, signed or not, or a double. -/
inductive Number
  | int (n : Int)
  | double (x : Double)
deriving DecidableEq

/-- A value; the members of an object are in order of their names. -/
inductive Value
  | null
  | bool (b : Bool)
  | number (n : Number)
  | string (s : String)
  | array (items : List Value)
  | object (members : List (String × Value))

/-- The integers that are kept exactly. -/
def inRange (n : Int) : Bool := -Int.pow 2 63 ≤ n && n < Int.pow 2 64

/-- The integer that a literal spells, when it is integral, in range, and not minus zero. -/
def Literal.int? (l : Literal) : Option Int :=
  if l.integral then
    let n : Int := Decimal.value l.whole
    if l.negative then
      if n ≠ 0 ∧ inRange (-n) then some (-n) else none
    else if inRange n then some n else none
  else none

/-- The number that a literal spells: an exact integer if it is one, else a double in range. -/
def Literal.number? (l : Literal) : Option Number :=
  match l.int? with
  | some n => some (.int n)
  | none => (Double.ofLiteral? l).map .double

/-- Sets a member, keeping the members in order of their names. -/
def put {α : Type} (name : String) (v : α) : List (String × α) → List (String × α)
  | [] => [(name, v)]
  | (n, w) :: rest =>
    if name < n then (name, v) :: (n, w) :: rest
    else if name = n then (name, v) :: rest
    else (n, w) :: put name v rest

/-- Members in the order they were written as members in order of their names; the last of a name
counts. -/
def inOrder {α : Type} (members : List (String × α)) : List (String × α) :=
  members.foldl (fun acc (name, v) => put name v acc) []

@[simp] theorem lookup_put_self {α : Type} (name : String) (v : α) (members : List (String × α)) :
    (put name v members).lookup name = some v := by
  induction members with
  | nil => simp [put]
  | cons member members ih =>
      obtain ⟨n, w⟩ := member
      unfold put
      by_cases hlt : name < n
      · simp [hlt]
      · by_cases heq : name = n
        · simp [heq]
        · have hne : (name == n) = false := by simpa using heq
          simp [hlt, heq, List.lookup_cons, hne, ih]

theorem lookup_put_of_ne {α : Type} {name other : String} (hne : other ≠ name) (v : α)
    (members : List (String × α)) : (put name v members).lookup other = members.lookup other := by
  have hother : (other == name) = false := by simpa using hne
  induction members with
  | nil => simp [put, List.lookup_cons, hother]
  | cons member members ih =>
      obtain ⟨n, w⟩ := member
      unfold put
      by_cases hlt : name < n
      · simp [hlt, List.lookup_cons, hother]
      · by_cases heq : name = n
        · subst heq
          rw [if_neg hlt, if_pos rfl]
          simp [List.lookup_cons, hother]
        · simp [hlt, heq, List.lookup_cons, ih]

/-- Of several members of one name the last counts. -/
theorem lookup_inOrder {α : Type} (members : List (String × α)) (name : String) :
    (inOrder members).lookup name = members.reverse.lookup name := by
  have hfold : ∀ acc : List (String × α),
      (members.foldl (fun acc (n, v) => put n v acc) acc).lookup name
        = (members.reverse.lookup name).or (acc.lookup name) := by
    induction members with
    | nil => intro acc; simp
    | cons member members ih =>
        intro acc
        obtain ⟨n, v⟩ := member
        rw [List.foldl_cons, ih, List.reverse_cons, List.lookup_append, Option.or_assoc]
        congr 1
        by_cases heq : name = n
        · subst heq
          simp
        · have hne : (name == n) = false := by simpa using heq
          simp [lookup_put_of_ne heq, List.lookup_cons, hne]
  rw [inOrder, hfold]
  simp

/-- How many arrays and objects may stand inside one another. -/
def depthLimit : Nat := 127

/-- Reads a document as a value with at most `room` levels of nesting. -/
def Document.value? : (room : Nat) → Document → Option Value
  | _, .null => some .null
  | _, .bool b => some (.bool b)
  | _, .number l => l.number?.map .number
  | _, .string text => text.map .string
  | room + 1, .array items => (items.mapM (value? room)).map .array
  | room + 1, .object members => do
    let members ← members.mapM fun (name, d) => do return (← name, ← value? room d)
    return .object (inOrder members)
  | 0, _ => none

namespace Value

/-- The written form of a character inside a string. -/
def encodeChar (c : Char) : List UInt8 :=
  if c = '"' then [92, 34]
  else if c = '\\' then [92, 92]
  else if c = '\x08' then [92, 98]
  else if c = '\x0c' then [92, 102]
  else if c = '\n' then [92, 110]
  else if c = '\r' then [92, 114]
  else if c = '\t' then [92, 116]
  else if c.toNat < 32 then
    let hex (n : Nat) : UInt8 := (Radix.char n).toNat.toUInt8
    [92, 117, 48, 48, hex (c.toNat / 16), hex (c.toNat % 16)]
  else String.utf8EncodeChar c

/-- The written form of a string. -/
def encodeString (s : String) : List UInt8 :=
  34 :: (s.toList.flatMap encodeChar ++ [34])

def ascii (s : String) : List UInt8 := s.toList.map fun c => c.toNat.toUInt8

/-- The written form of a number. -/
def encodeNumber : Number → List UInt8
  | .int n => ascii (Decimal.intText n)
  | .double x => ascii x.text

mutual
/-- The written form of a value: compact, members in the order they are kept. -/
def encode : Value → List UInt8
  | .null => ascii "null"
  | .bool true => ascii "true"
  | .bool false => ascii "false"
  | .number n => encodeNumber n
  | .string s => encodeString s
  | .array items => 91 :: encodeItems items
  | .object members => 123 :: encodeMembers members

/-- The items of an array after its opening bracket. -/
def encodeItems : List Value → List UInt8
  | [] => [93]
  | v :: rest => encode v ++ encodeRest rest

/-- What follows an item of an array. -/
def encodeRest : List Value → List UInt8
  | [] => [93]
  | v :: rest => 44 :: (encode v ++ encodeRest rest)

/-- The members of an object after its opening brace. -/
def encodeMembers : List (String × Value) → List UInt8
  | [] => [125]
  | (name, v) :: rest => encodeString name ++ 58 :: (encode v ++ encodeMore rest)

/-- What follows a member of an object. -/
def encodeMore : List (String × Value) → List UInt8
  | [] => [125]
  | (name, v) :: rest => 44 :: (encodeString name ++ 58 :: (encode v ++ encodeMore rest))
end

/-- The written form of a value, as a message body. -/
def body (v : Value) : ByteArray := ⟨v.encode.toArray⟩

/-- Reads a text, given as bytes, as a value. -/
def read? (bytes : List UInt8) : Option Value := do
  (← Document.read? bytes).value? depthLimit

def int (n : Int) : Value := .number (.int n)

def strings (l : List String) : Value := .array (l.map .string)

/-- An object with the given members. -/
def record (members : List (String × Value)) : Value := .object members

end Value

end ReportGateway.Json
