import ReportGateway.Json.Value

/-!
Reading documents as records of a known shape. A reader gets a document and the levels of nesting
that are left. A record is an object with the fields' names, where unknown members are passed over
and a field may come once, or an array of the fields' values in order. A field that is missing takes
its default, when it has one; `null` stands only for a value that may be absent or for opaque data.
-/

namespace ReportGateway.Json

/-- A way to read a document with so many levels of nesting left. -/
abbrev Read (α : Type) : Type := (room : Nat) → Document → Option α

namespace Read

def text : Read String
  | _, .string t => t
  | _, _ => none

def bool : Read Bool
  | _, .bool b => some b
  | _, _ => none

/-- An integer from `low` up to `high`. -/
def int (low high : Int) : Read Int
  | _, .number l => do
    let n ← l.int?
    if low ≤ n ∧ n ≤ high then some n else none
  | _, _ => none

/-- A signed integer of 32 bits. -/
def int32 : Read Int := int (-Int.pow 2 31) (Int.pow 2 31 - 1)

/-- A signed integer of 64 bits. -/
def int64 : Read Int := int (-Int.pow 2 63) (Int.pow 2 63 - 1)

/-- An unsigned integer of 64 bits. -/
def nat64 : Read Nat := fun room d => (int 0 (Int.pow 2 64 - 1) room d).map Int.toNat

/-- Data that is passed on without a look at it. -/
def opaqueData : Read Value := Document.value?

def listOf {α : Type} (item : Read α) : Read (List α)
  | room + 1, .array items => items.mapM (item room)
  | _, _ => none

/-- A map from names, in order of the names; the last member of a name counts. -/
def mapOf {α : Type} (item : Read α) : Read (List (String × α))
  | room + 1, .object members => do
    let members ← members.mapM fun (name, d) => do return (← name, ← item room d)
    return inOrder members
  | _, _ => none

/-- A value that may be absent. -/
def optional {α : Type} (item : Read α) : Read (Option α)
  | _, .null => some none
  | room, d => (item room d).map some

end Read

/-- The fields of a record that are present, and the levels of nesting left inside it. -/
structure Fields where
  room : Nat
  present : List (String × Document)

namespace Fields

/-- The members of an object that bear one of the names; none when a name comes twice, or when the
name of any member is no text. -/
def known? (names : List String) :
    List (Option String × Document) → Option (List (String × Document))
  | [] => some []
  | (name, d) :: rest => do
    let name ← name
    let found ← known? names rest
    if name ∈ names then
      if (found.lookup name).isSome then none else some ((name, d) :: found)
    else some found

/-- The fields of a record written as an object, or as an array of their values in order, with or
without values after those of the fields. -/
def ofWritten? (surplus : Bool) (names : List String) : Read Fields
  | room + 1, .object members => do return ⟨room, ← known? names members⟩
  | room + 1, .array items =>
    if surplus ∨ items.length ≤ names.length then some ⟨room, names.zip items⟩ else none
  | _, _ => none

/-- The fields of a record written as an object, or as an array of their values in order. -/
def ofDocument? (names : List String) : Read Fields := ofWritten? false names

/-- A field that has to be there. -/
def required {α : Type} (f : Fields) (name : String) (read : Read α) : Option α := do
  read f.room (← f.present.lookup name)

/-- A field with a default. -/
def withDefault {α : Type} (f : Fields) (name : String) (default : α) (read : Read α) : Option α :=
  match f.present.lookup name with
  | none => some default
  | some d => read f.room d

end Fields

/-- A record with one field, by its value. -/
def Read.envelope {α : Type} (name : String) (read : Read α) : Read α := fun room d => do
  (← Fields.ofDocument? [name] room d).required name read

/-- Reads a whole text, given as bytes. -/
def Read.ofBytes? {α : Type} (read : Read α) (bytes : List UInt8) : Option α := do
  read depthLimit (← Document.read? bytes)

end ReportGateway.Json
