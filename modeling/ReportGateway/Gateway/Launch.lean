import ReportGateway.Gateway.Basic
import ReportGateway.Host

/-!
Starting a gateway. The settings come from a file, or are the defaults when there is none; with
settings that are wrong nothing is started, and a gateway that cannot listen does not run.
-/

namespace ReportGateway.Gateway

/-- The gateway that the settings in a file describe, with them and the address it listens on. -/
def ofFile (path : String) (file : Option ByteArray) :
    Except Settings.Error (Settings × Gateway × Address.Socket) := do
  let settings ← Settings.ofFile path file
  return (settings, ← ofSettings settings, ← settings.socketAddress)

/-- What came of starting a gateway on a host. -/
inductive Launch
  | refused (e : Settings.Error)
  | notBound (gateway : Gateway)
  | listening (gateway : Gateway) (address : Address.Socket) (host : Host)

/-- Starts a gateway with the settings that the file at a path holds. -/
def launch (h : Host) (path : String) (file : Option ByteArray) : Launch :=
  match ofFile path file with
  | .error e => .refused e
  | .ok (_, gateway, address) =>
    match h.listen? address with
    | some (bound, host) => .listening gateway bound host
    | none => .notBound gateway

namespace Launch

def isListening : Launch → Bool
  | .listening _ _ _ => true
  | _ => false

/-- The gateway, if the settings describe one. -/
def gateway? : Launch → Option Gateway
  | .refused _ => none
  | .notBound gateway => some gateway
  | .listening gateway _ _ => some gateway

/-- The exit code of a program that starts a gateway and stops it when asked to. -/
def exitCode : Launch → UInt32
  | .listening _ _ _ => 0
  | _ => 1

end Launch

end ReportGateway.Gateway
