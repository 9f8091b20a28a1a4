import ReportGateway.Json.Token

/-!
A JSON text as it was written. A `Document` keeps what a reader may still refuse: the spelling of
every number, strings that name no text, and the members of an object in order with repetitions. It
is put together from the tokens by a machine with one frame for each array or object that is still
open, so nesting has no limit here; readers set theirs.
-/

namespace ReportGateway.Json

/-- A text as it was written. -/
inductive Document
  | null
  | bool (b : Bool)
  | number (l : Literal)
  | string (text : Option String)
  | array (items : List Document)
  | object (members : List (Option String × Document))

namespace Document

/-- An array or object that is still open, with what it holds so far, last part first. An object
that is waiting for a value knows the name the value is for. -/
inductive Frame
  | array (done : List Document)
  | object (done : List (Option String × Document)) (name : Option String)

/-- What may come next. -/
inductive Expects
  | value
  | itemOrEnd
  | memberOrEnd
  | member
  | colon
  | separator
  | nothing (found : Document)

/-- The open frames, innermost first, and what may come next. -/
structure Machine where
  frames : List Frame
  expects : Expects

namespace Machine

def start : Machine := ⟨[], .value⟩

/-- Hands a finished value to the innermost open frame. -/
def deliver (v : Document) : List Frame → Machine
  | [] => ⟨[], .nothing v⟩
  | .array done :: outer => ⟨.array (v :: done) :: outer, .separator⟩
  | .object done name :: outer => ⟨.object ((name, v) :: done) none :: outer, .separator⟩

/-- Takes a token where a value has to start. -/
def value (frames : List Frame) : Token → Option Machine
  | .null => some (deliver .null frames)
  | .bool b => some (deliver (.bool b) frames)
  | .number l => some (deliver (.number l) frames)
  | .string text => some (deliver (.string text) frames)
  | .beginArray => some ⟨.array [] :: frames, .itemOrEnd⟩
  | .beginObject => some ⟨.object [] none :: frames, .memberOrEnd⟩
  | _ => none

/-- Takes one token. -/
def step (m : Machine) (t : Token) : Option Machine :=
  match m.expects, m.frames with
  | .value, frames => value frames t
  | .itemOrEnd, .array done :: outer =>
    if t = .endArray then some (deliver (.array done.reverse) outer)
    else value (.array done :: outer) t
  | .memberOrEnd, .object done _ :: outer =>
    match t with
    | .endObject => some (deliver (.object done.reverse) outer)
    | .string text => some ⟨.object done text :: outer, .colon⟩
    | _ => none
  | .member, .object done _ :: outer =>
    match t with
    | .string text => some ⟨.object done text :: outer, .colon⟩
    | _ => none
  | .colon, frames => if t = .colon then some ⟨frames, .value⟩ else none
  | .separator, .array done :: outer =>
    match t with
    | .comma => some ⟨.array done :: outer, .value⟩
    | .endArray => some (deliver (.array done.reverse) outer)
    | _ => none
  | .separator, .object done name :: outer =>
    match t with
    | .comma => some ⟨.object done name :: outer, .member⟩
    | .endObject => some (deliver (.object done.reverse) outer)
    | _ => none
  | _, _ => none

/-- The value of a text that has ended. -/
def finish (m : Machine) : Option Document :=
  match m.expects with
  | .nothing v => some v
  | _ => none

end Machine

/-- The document that a list of tokens spells. -/
def ofTokens? (ts : List Token) : Option Document := do
  (← ts.foldlM Machine.step Machine.start).finish

/-- Reads a text, given as bytes. -/
def read? (bytes : List UInt8) : Option Document := do
  ofTokens? (← tokens? bytes)

end Document

end ReportGateway.Json
