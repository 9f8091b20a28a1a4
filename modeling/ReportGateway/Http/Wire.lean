import ReportGateway.Http.Message
import ReportGateway.Text.Utf8

/-!
Messages as bytes. A message is a start line, fields one to a line, an empty line and a body. The
body ends after as many bytes as the fields say, or after the last of its chunks, or where the
connection ends; every connection carries one message in each direction.
-/

namespace ReportGateway.Http.Wire

/-- A message up to its body. -/
structure Head where
  start : String
  headers : Headers

/-- Bytes as text: as UTF-8, or byte by byte if they are none. -/
def textOf (bs : List UInt8) : String :=
  (Utf8.decode? bs).getD (String.ofList (bs.map fun b => Char.ofNat b.toNat))

/-- The lines up to the empty one, and what follows it. The line that is being read and the lines so
far come last part first; empty lines at the front are passed over. -/
def headLines? (line : List UInt8) (lines : List (List UInt8)) :
    List UInt8 → Option (List (List UInt8) × List UInt8)
  | [] => none
  | b :: rest =>
    if b = 10 then
      let line := if line.head? = some 13 then line.drop 1 else line
      if !line.isEmpty then headLines? [] (line.reverse :: lines) rest
      else if lines.isEmpty then headLines? [] [] rest
      else some (lines.reverse, rest)
    else headLines? (b :: line) lines rest

def isBlank (b : UInt8) : Bool := b = 32 || b = 9

/-- Reads a line that holds a field. -/
def field? (line : List UInt8) : Option (String × String) :=
  let name := line.takeWhile (· ≠ 58)
  match line.dropWhile (· ≠ 58) with
  | _ :: value =>
    let value := ((value.dropWhile isBlank).reverse.dropWhile isBlank).reverse
    if name.isEmpty ∨ name.any isBlank then none else some (textOf name, textOf value)
  | [] => none

/-- Reads lines as the head of a message. -/
def head? : List (List UInt8) → Option Head
  | [] => none
  | start :: fields => do
    return { start := textOf start, headers := .ofList (← fields.mapM field?) }

/-- What tells where a body ends. -/
inductive Framing
  | sized (n : Nat)
  | chunked
  | unmarked
deriving DecidableEq

/-- What the fields say about the end of the body, unless they contradict themselves. -/
def framing? (h : Headers) : Option Framing :=
  match h.values "transfer-encoding", (h.values "content-length").eraseDups with
  | [], [] => some .unmarked
  | [], [n] => (Decimal.read? n.toList).map .sized
  | [], _ => none
  | codings, _ => if codings.getLast?.any (·.toLower = "chunked") then some .chunked else none

/-- Where a reader of chunks stands. -/
inductive ChunkMode
  | size (line : List UInt8)
  | data (left : Nat)
  | gap
  | trailer (isEmpty : Bool)
  | finished
  | broken
deriving DecidableEq

/-- A reader of chunks: where it stands, and the body so far, last byte first. -/
structure Chunks where
  mode : ChunkMode
  body : List UInt8

/-- The number of bytes that a line announces. -/
def chunkSize? (line : List UInt8) : Option Nat :=
  let (digits, _) := Radix.span 16 (line.map fun b => Char.ofNat b.toNat)
  if digits.isEmpty then none else some (Radix.value 16 digits)

/-- Takes one byte. -/
def Chunks.step (c : Chunks) (b : UInt8) : Chunks :=
  match c.mode with
  | .size line =>
    if b ≠ 10 then { c with mode := .size (b :: line) }
    else
      match chunkSize? line.reverse with
      | none => { c with mode := .broken }
      | some 0 => { c with mode := .trailer true }
      | some n => { c with mode := .data n }
  | .data left => ⟨if left ≤ 1 then .gap else .data (left - 1), b :: c.body⟩
  | .gap =>
    if b = 13 then c else if b = 10 then { c with mode := .size [] } else { c with mode := .broken }
  | .trailer isEmpty =>
    if b = 13 then c
    else if b ≠ 10 then { c with mode := .trailer false }
    else { c with mode := if isEmpty then .finished else .trailer true }
  | .finished => c
  | .broken => c

def Chunks.ofBytes (bs : List UInt8) : Chunks := bs.foldl step ⟨.size [], []⟩

def ofBytes (bs : List UInt8) : ByteArray := ⟨bs.toArray⟩

/-- The body at the front of what arrived, and whether it is complete. -/
def bodyOf (framing : Framing) (bs : List UInt8) : ByteArray × Bool :=
  match framing with
  | .sized n => (ofBytes (bs.take n), n ≤ bs.length)
  | .chunked =>
    let chunks := Chunks.ofBytes bs
    (ofBytes chunks.body.reverse, chunks.mode = .finished)
  | .unmarked => (ofBytes bs, true)

/-- The status that the start line of a response names. -/
def statusOf? (start : String) : Option Nat :=
  match start.toList.splitOn ' ' with
  | version :: status :: _ =>
    if "HTTP/1.".toList.isPrefixOf version ∧ status.length = 3 then Decimal.read? status else none
  | _ => none

/-- Whether a response to a request of a method has no body, whatever its fields say. -/
def isBodiless (method : String) (status : Nat) : Bool :=
  method = "HEAD" || status < 200 || status = 204 || status = 304

/-- What came of a request of a method, by the bytes that arrived until the connection ended. -/
def replyOf (method : String) (bs : List UInt8) : Reply :=
  let response? : Option Reply := do
    let (lines, rest) ← headLines? [] [] bs
    let head ← head? lines
    let status ← statusOf? head.start
    let framing ← framing? head.headers
    let (body, complete) :=
      if isBodiless method status then (.empty, true) else bodyOf framing rest
    return .answer { status, headers := head.headers, body } complete
  response?.getD .silent

/-- A request as a server gets it. -/
structure Incoming where
  method : String
  target : String
  headers : Headers
  body : ByteArray

/-- What the bytes of a request amount to. -/
inductive Arrival
  | incomplete
  | malformed
  | complete (r : Incoming)

/-- Looks for a request in the bytes that arrived so far. Of a body that exceeds a limit no more is
waited for. -/
def arrivalOf (limit : Nat) (bs : List UInt8) : Arrival :=
  match headLines? [] [] bs with
  | none => .incomplete
  | some (lines, rest) =>
    match head? lines with
    | none => .malformed
    | some head =>
      match head.start.toList.splitOn ' ', framing? head.headers with
      | [method, target, version], some framing =>
        if !"HTTP/1.".toList.isPrefixOf version then .malformed
        else
          let (body, complete) :=
            if framing = .unmarked then (.empty, true) else bodyOf framing rest
          if complete ∨ body.size > limit then
            .complete ⟨String.ofList method, String.ofList target, head.headers, body⟩
          else .incomplete
      | _, _ => .malformed

/-- A message as it is sent, over a connection that ends with it. -/
def messageBytes (start : String) (headers : Headers) (body : ByteArray) : ByteArray :=
  let fields := headers.add "connection" "close"
  let head := start ++ "\r\n" ++ String.join (fields.map fun (n, v) => n ++ ": " ++ v ++ "\r\n")
  (head ++ "\r\n").toUTF8 ++ body

/-- The headers with the size of a body. -/
def withSize (h : Headers) (body : ByteArray) : Headers :=
  h.set "content-length" (Decimal.text body.size)

/-- A request as it is sent. -/
def requestBytes (r : Request) : ByteArray :=
  let asked :=
    if (r.headers.first? "accept").isSome then r.headers else r.headers.add "accept" "*/*"
  let sized :=
    if r.body.isEmpty ∧ (r.method = "GET" ∨ r.method = "HEAD") then asked else withSize asked r.body
  messageBytes (r.method ++ " " ++ r.url.target ++ " HTTP/1.1")
    (("host", r.url.authority) :: sized) r.body

/-- A response as it is sent. -/
def responseBytes (r : Response) : ByteArray :=
  let fields := r.headers.without ["connection", "transfer-encoding"]
  messageBytes ("HTTP/1.1 " ++ Decimal.text r.status ++ " ") (withSize fields r.body) r.body

end ReportGateway.Http.Wire
