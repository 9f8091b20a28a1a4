import ReportGateway.Address.Ip

/-!
URLs. A path is a list of segments, each preceded by a slash in the text, or a bare text under which
nothing can be named. `Url.text` writes a URL.
-/

namespace ReportGateway

namespace Url

/-- What stands for a host in a URL. -/
inductive Host
  | name (text : String)
  | v4 (address : Address.V4)
  | v6 (address : Address.V6)
deriving DecidableEq

def Host.text : Host → String
  | .name s => s
  | .v4 a => a.text
  | .v6 a => "[" ++ a.text ++ "]"

/-- A path that can be extended, or one that cannot. -/
inductive Path
  | segments (list : List String)
  | bare (text : String)
deriving DecidableEq

def Path.text : Path → String
  | .segments l => String.join (l.map ("/" ++ ·))
  | .bare s => s

/-- The schemes whose URLs have a host and a hierarchical path. -/
def isSpecial (scheme : String) : Bool :=
  ["http", "https", "ws", "wss", "ftp", "file"].contains scheme

/-- The port that a scheme uses when none is written. -/
def defaultPort? (scheme : String) : Option Nat :=
  match scheme with
  | "http" => some 80
  | "ws" => some 80
  | "https" => some 443
  | "wss" => some 443
  | "ftp" => some 21
  | _ => none

end Url

/-- A URL by its parts, each as it is written. -/
structure Url where
  scheme : String
  username : String
  password : Option String
  host : Option Url.Host
  /-- The port, when it is not the default of the scheme. -/
  port : Option Nat
  path : Url.Path
  /-- Whether a dot is written before the path, so that an empty segment at its front is not taken
  for the mark of a host. -/
  guarded : Bool
  query : Option String
  fragment : Option String
deriving DecidableEq

namespace Url

def special (u : Url) : Bool := isSpecial u.scheme

def hasCredentials (u : Url) : Bool := u.username ≠ "" || u.password.isSome

def portText : Option Nat → String
  | none => ""
  | some p => ":" ++ Decimal.text p

/-- The user name and password before the host. -/
def credentialsText (u : Url) : String :=
  if u.hasCredentials then
    u.username ++ (u.password.elim "" (":" ++ ·)) ++ "@"
  else ""

/-- The host and port. -/
def authority (u : Url) : String := (u.host.elim "" Host.text) ++ portText u.port

/-- The path and query, as a request names its target. -/
def target (u : Url) : String := u.path.text ++ u.query.elim "" ("?" ++ ·)

/-- The text of a URL. -/
def text (u : Url) : String :=
  u.scheme ++ ":" ++ (if u.host.isSome then "//" ++ u.credentialsText ++ u.authority else "")
    ++ (if u.guarded then "/." else "") ++ u.target ++ u.fragment.elim "" ("#" ++ ·)

/-- A path made of segments can be extended; a bare one cannot. -/
def hasSegments (u : Url) : Bool :=
  match u.path with
  | .segments _ => true
  | .bare _ => false

/-- The port that is connected to. -/
def knownPort (u : Url) : Option Nat := u.port.or (defaultPort? u.scheme)

/-- What is wrong with a text that is no URL. -/
inductive Error
  | emptyHost
  | invalidDomain
  | invalidPort
  | invalidV4
  | invalidV6
  | invalidHostCharacter
  | relativeWithoutBase
  | relativeToBare
deriving DecidableEq

def Error.message : Error → String
  | .emptyHost => "empty host"
  | .invalidDomain => "invalid international domain name"
  | .invalidPort => "invalid port number"
  | .invalidV4 => "invalid IPv4 address"
  | .invalidV6 => "invalid IPv6 address"
  | .invalidHostCharacter => "invalid domain character"
  | .relativeWithoutBase => "relative URL without a base"
  | .relativeToBare => "relative URL with a cannot-be-a-base base"

end Url

end ReportGateway
