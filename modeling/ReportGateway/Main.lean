import ReportGateway.Gateway.Launch
import ReportGateway.Gateway.Serve
import ReportGateway.Http.Wire
import Std.Async

/-!
The program: a gateway with the settings of a file, on the network of the host. It listens until it
is interrupted and then finishes what it has begun. Meanwhile it refreshes what it knows about the
rules, at once and then at regular intervals. Services are asked over plain connections only.
-/

open Std.Async (Async AsyncTask)
open Std.Async.TCP (Socket.Server Socket.Client)
open Std.Net (IPAddr IPv4Addr IPv6Addr SocketAddress)

namespace ReportGateway.Program

/-- The variable that names the file with the settings, and the file when it is not set. -/
def fileVariable : String := "RULES_GATEWAY_CONFIG"

def defaultFile : String := "config.toml"

def ipOfV4 (a : Address.V4) : IPv4Addr :=
  let octet (i : Nat) : UInt8 := (a.octets.getD i 0).toUInt8
  .ofParts (octet 0) (octet 1) (octet 2) (octet 3)

def ipOfV6 (a : Address.V6) : IPv6Addr :=
  let piece (i : Nat) : UInt16 := (a.pieces.getD i 0).toUInt16
  .ofParts (piece 0) (piece 1) (piece 2) (piece 3) (piece 4) (piece 5) (piece 6) (piece 7)

def place (ip : IPAddr) (port : Nat) : SocketAddress :=
  match ip with
  | .v4 addr => .v4 ⟨addr, port.toUInt16⟩
  | .v6 addr => .v6 ⟨addr, port.toUInt16⟩

def listeningPlace : Address.Socket → SocketAddress
  | .v4 a port => place (.v4 (ipOfV4 a)) port
  | .v6 a _ port => place (.v6 (ipOfV6 a)) port

/-- The places where the service of a URL may be found. -/
def placesOf (u : Url) : Async (Array SocketAddress) := do
  let port := u.knownPort.getD 80
  match u.host with
  | none => return #[]
  | some (.v4 a) => return #[place (.v4 (ipOfV4 a)) port]
  | some (.v6 a) => return #[place (.v6 (ipOfV6 a)) port]
  | some (.name name) =>
    return (← Std.Async.DNS.getAddrInfo name (Decimal.text port)).map (place · port)

/-- How many bytes are received at once at most. -/
def portion : UInt64 := 65536

/-- Connects to the first of some places that takes the connection. -/
def connect? (places : Array SocketAddress) : Async (Option Socket.Client) := do
  for p in places do
    let socket ← Socket.Client.mk
    try
      socket.connect p
      return some socket
    catch _ => pure ()
  return none

/-- All that arrives until the other side ends the connection. -/
def receiveAll (socket : Socket.Client) : Async ByteArray := do
  let mut received := ByteArray.empty
  try
    repeat
      match ← socket.recv? portion with
      | some bytes => received := received ++ bytes
      | none => break
  catch _ => pure ()
  return received

/-- Sends a request to a service and waits for its reply. -/
def ask (r : Http.Request) : Async Http.Reply := do
  if r.url.scheme ≠ "http" then return .unreachable
  let socket? ← try connect? (← placesOf r.url) catch _ => pure none
  match socket? with
  | none => return .unreachable
  | some socket =>
    try
      socket.send (Http.Wire.requestBytes r)
      return Http.Wire.replyOf r.method (← receiveAll socket).data.toList
    catch _ => return .silent

instance : Inhabited Http.Reply := ⟨.silent⟩

/-- Sends a request, but waits no longer than so many seconds. -/
def askWithin (seconds : Nat) (r : Http.Request) : Async Http.Reply :=
  Async.race (ask r) do
    Std.Async.sleep (.ofNat (1000 * seconds))
    return .silent

/-- A running gateway. -/
structure Running where
  gateway : Gateway
  settings : Settings
  library : IO.Ref Content.Library

/-- Carries an action out. -/
def Running.perform {ε α : Type} (s : Running) (a : Action ε α) : Async (Except ε α) :=
  a.perform (askWithin s.settings.services.requestTimeout) fun ruleId errorKey => do
    return (← s.library.get).directory.lookup ruleId errorKey

/-- Refreshes what is known about the rules, over and over. -/
def Running.refresh (s : Running) : Async Unit := do
  repeat
    let library ← s.library.get
    match ← s.perform (ε := Empty) (library.refresh s.gateway.content) with
    | .ok library => s.library.set library
    | .error e => nomatch e
    Std.Async.sleep (.ofNat (1000 * s.settings.services.pollInterval))

/-- What is answered to a request. -/
def Running.answer (s : Running) (r : Http.Wire.Incoming) : Async Http.Response := do
  let id := Uuid.ofRandom (← IO.getRandomBytes 16).data.toList
  let groups := (← s.library.get).groups
  let inbound := Inbound.ofTarget r.method r.target r.headers r.body
  match ← s.perform (ε := Empty) (s.gateway.respond groups id.text inbound) with
  | .ok response => return response
  | .error e => nomatch e

/-- Waits for a request, if one comes. -/
def receive? (socket : Socket.Client) : Async (Option (Except Unit Http.Wire.Incoming)) := do
  let mut received : List UInt8 := []
  repeat
    match Http.Wire.arrivalOf Inbound.bodyLimit received with
    | .complete r => return some (.ok r)
    | .malformed => return some (.error ())
    | .incomplete =>
      match ← socket.recv? portion with
      | some bytes => received := received ++ bytes.data.toList
      | none => return none
  return none

/-- Serves a connection. -/
def Running.serve (s : Running) (socket : Socket.Client) : Async Unit := do
  try
    match ← receive? socket with
    | none => pure ()
    | some (.ok r) => socket.send (Http.Wire.responseBytes (← s.answer r))
    | some (.error ()) => socket.send (Http.Wire.responseBytes (Gateway.emptyResponse 400))
    socket.shutdown
  catch _ => pure ()

/-- Serves every connection that comes. -/
def Running.accept (s : Running) (server : Socket.Server)
    (begun : IO.Ref (Array (AsyncTask Unit))) : Async Unit := do
  repeat
    let socket ← server.accept
    let task : AsyncTask Unit ← Std.Async.async (s.serve socket)
    let unfinished ← (← begun.get).filterM fun t => return !(← IO.hasFinished t)
    begun.set (unfinished.push task)

/-- Starts listening, if the host allows it. -/
def listen? (a : Address.Socket) : IO (Option Socket.Server) := do
  try
    let server ← Socket.Server.mk
    server.bind (listeningPlace a)
    server.listen 1024
    return some server
  catch _ => return none

/-- The file with the settings. -/
def settingsFile : IO String := return (← IO.getEnv fileVariable).getD defaultFile

/-- What a file holds, if it is there. -/
def readFile? (path : String) : IO (Option ByteArray) := do
  try
    return some (← IO.FS.readBinFile path)
  catch
    | .noFileOrDirectory _ _ _ => return none
    | e => throw e

/-- Runs a gateway until the program is interrupted. -/
def run (s : Running) (server : Socket.Server) : IO Unit := do
  let begun ← IO.mkRef #[]
  let interrupt ← Std.Async.Signal.Waiter.mk .sigint false
  let interrupted ← interrupt.wait
  (Std.Async.background s.refresh : Async Unit).block
  (Std.Async.background (s.accept server begun) : Async Unit).block
  discard interrupted.block
  for task in ← begun.get do
    discard task.block

/-- Starts the gateway; gives the exit code. -/
def start : IO UInt32 := do
  let path ← settingsFile
  match Gateway.ofFile path (← readFile? path) with
  | .error e =>
    IO.eprintln ("Startup failed: " ++ e.message)
    return 1
  | .ok (settings, gateway, address) =>
    match ← listen? address with
    | none =>
      IO.eprintln ("Startup failed: failed to bind " ++ address.text)
      return 1
    | some server =>
      run { gateway, settings, library := ← IO.mkRef .empty } server
      return 0

end ReportGateway.Program

def main : IO UInt32 := do
  try
    ReportGateway.Program.start
  catch e =>
    IO.eprintln ("Startup failed: " ++ e.toString)
    return 1
