import ReportGateway.Address.Socket
import ReportGateway.Settings.Basic
import ReportGateway.Text.Blank
import ReportGateway.Url.Reader

/-!
Checking settings. A base URL gets a slash at its end, so that everything under it is named by what
follows. `check` refuses settings that the gateway could not be run with, and names the first that
is wrong; settings that were read from a text or a file have been checked.
-/

namespace ReportGateway.Settings

/-- What is wrong with settings: the file at a path, what is written there, or one field. -/
inductive Error
  | unreadable (path message : String)
  | malformed (path message : String)
  | invalid (field message : String)
deriving DecidableEq

def Error.message : Error → String
  | .unreadable path message => "cannot read config file " ++ path ++ ": " ++ message
  | .malformed path message => "invalid TOML in " ++ path ++ ": " ++ message
  | .invalid field message => "invalid value for " ++ field ++ ": " ++ message

/-- A base URL as it is written, with a slash at its end. -/
def withSlash (raw : String) : String :=
  if raw.toList.getLast? = some '/' then raw else raw ++ "/"

/-- Reads a base URL. -/
def baseUrl (field raw : String) : Except Error Url :=
  match Url.parse (withSlash raw) with
  | .error e => .error (.invalid field e.message)
  | .ok url =>
    if url.hasSegments ∧ (url.scheme = "http" ∨ url.scheme = "https") then .ok url
    else .error (.invalid field (raw ++ " is not an http(s) base URL"))

def aggregatorUrl (s : Settings) : Except Error Url :=
  baseUrl "services.aggregator_base_endpoint" s.services.aggregator

def contentUrl (s : Settings) : Except Error Url :=
  baseUrl "services.content_base_endpoint" s.services.content

def membershipUrl (s : Settings) : Except Error (Option Url) :=
  match s.membership with
  | none => .ok none
  | some raw => (baseUrl "membership.url" raw).map some

/-- Where the gateway listens. -/
def socketAddress (s : Settings) : Except Error Address.Socket :=
  match Address.Socket.parse? s.server.address with
  | some a => .ok a
  | none => .error (.invalid "server.address" Address.Socket.invalidMessage)

/-- The path under which the gateway serves, without slashes at its end. -/
def routePath (s : Settings) : String := Text.trimEnd (· = '/') s.server.apiPath

def positive (field : String) (n : Nat) : Except Error Unit :=
  if n = 0 then .error (.invalid field "must be greater than 0") else .ok ()

/-- A route path has to begin with a slash and to have something after it. -/
def checkPath (s : Settings) : Except Error Unit :=
  if s.server.apiPath.toList.head? = some '/' ∧ s.routePath ≠ "" then .ok ()
  else .error (.invalid "server.api_prefix" "must start with '/' and name at least one segment")

/-- Refuses settings that the gateway cannot be run with. -/
def check (s : Settings) : Except Error Unit := do
  discard s.aggregatorUrl
  discard s.contentUrl
  discard s.membershipUrl
  positive "services.request_timeout_secs" s.services.requestTimeout
  positive "services.groups_poll_interval_secs" s.services.pollInterval
  s.checkPath
  discard s.socketAddress

def checked (s : Settings) : Except Error Settings := do
  s.check
  return s

/-- The settings that are written in a text, right or wrong, or why there are none. -/
def written (text : String) : Except String Settings :=
  match Toml.read? text with
  | none => .error "the text is not TOML"
  | some d =>
    match Settings.read true .default Json.depthLimit d with
    | none => .error "the text does not describe settings"
    | some s => .ok s

/-- Reads settings from a text. -/
def ofToml (text : String) : Except Error Settings :=
  match written text with
  | .error message => .error (.malformed "<string>" message)
  | .ok s => s.checked

/-- Reads settings from what the file at a path holds; without a file they are the defaults. -/
def ofFile (path : String) : Option ByteArray → Except Error Settings
  | none => Settings.default.checked
  | some bytes =>
    match String.fromUTF8? bytes with
    | none => .error (.unreadable path "stream did not contain valid UTF-8")
    | some text =>
      match written text with
      | .error message => .error (.malformed path message)
      | .ok s => s.checked

end ReportGateway.Settings
