import ReportGateway.Toml.Value

/-!
Reading TOML texts. A text is a list of lines: headers, which say what table the lines after them
belong to, and pairs of a key and a value. A table has one header, and what a header names must not
have been defined as something else.
-/

namespace ReportGateway.Toml

open Json (Document)
open Text (Phrase)
open Text.Phrase (one span literal maybe many)

/-- A line that says something. -/
inductive Line
  | header (repeated : Bool) (parents : List String) (name : String)
  | pair (parents : List String) (name : String) (value : Document)

namespace Line

def header? : Phrase Line := do
  literal "["
  let repeated ← maybe (literal "[")
  let (parents, name) ← key
  literal (if repeated.isSome then "]]" else "]")
  return .header repeated.isSome parents name

def pair? : Phrase Line := do
  let (parents, name) ← key
  literal "="
  blanks
  return .pair parents name (← value (depthLimit - 1))

/-- A line: what it says, if it says anything, and perhaps a comment. -/
def read : Phrase (Option Line) := do
  blanks
  let line ← maybe (header? <|> pair?)
  blanks
  discard (maybe comment)
  return line

end Line

/-- All lines of a text. -/
def lines : Phrase (List Line) := do
  let first ← Line.read
  let more ← many do
    newline
    Line.read
  Phrase.finish
  return (first :: more).filterMap id

/-- Changes the table at a path; tables on the way that are missing come about. -/
def atPath (change : Items → Option Items) : List String → Items → Option Items
  | [], items => change items
  | parent :: more, items =>
    match items.lookup parent with
    | none => do return items ++ [(parent, .table .path (← atPath change more []))]
    | some (.table origin inner) => do
      return Items.set parent (.table origin (← atPath change more inner)) items
    | some (.tables (inner :: earlier)) => do
      return Items.set parent (.tables ((← atPath change more inner) :: earlier)) items
    | _ => none

/-- Opens the table that a header names. -/
def openTable (name : String) (items : Items) : Option Items :=
  match items.lookup name with
  | none => some (items ++ [(name, .table .header [])])
  | some (.table .path inner) =>
    some (items.filter (fun item => item.1 ≠ name) ++ [(name, .table .header inner)])
  | _ => none

/-- Opens one more table of a repeated header. -/
def openRepeated (name : String) (items : Items) : Option Items :=
  match items.lookup name with
  | none => some (items ++ [(name, .tables [[]])])
  | some (.tables list) => some (Items.set name (.tables ([] :: list)) items)
  | _ => none

/-- A text that is being read: what is defined so far, and the table that lines belong to. -/
structure State where
  items : Items
  current : List String

def State.step (s : State) : Line → Option State
  | .header false parents name => do
    return ⟨← atPath (openTable name) parents s.items, parents ++ [name]⟩
  | .header true parents name => do
    return ⟨← atPath (openRepeated name) parents s.items, parents ++ [name]⟩
  | .pair parents name value => do
    return ⟨← atPath (Items.assign value name parents) s.current s.items, s.current⟩

/-- Reads a text; a mark of the byte order in front of it does not count. -/
def read? (s : String) : Option Document := do
  let cs := s.toList
  let (found, _) ← lines (if cs.head? = some '\ufeff' then cs.drop 1 else cs)
  let done ← found.foldlM State.step ⟨[], []⟩
  return .object (membersOf done.items)

end ReportGateway.Toml
