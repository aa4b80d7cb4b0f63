import HolderGate.Net.Url
import HolderGate.Text.Blank

/-! Settings of the service, read from named variables. A blank variable counts as unset, and a number
that cannot be read gives way to its default; an address that cannot be used is an error. -/
namespace HolderGate

inductive SettingsError where
  | badUrl (name reason : String)
  | badScheme (name : String)
  deriving DecidableEq, Repr

def SettingsError.message : SettingsError → String
  | badUrl name reason => "invalid " ++ name ++ ": " ++ reason
  | badScheme name => name ++ " must use http, https, ws or wss"

structure TlsFiles where
  certificate : String
  key : String
  deriving DecidableEq, Repr

structure Settings where
  host : String
  port : Nat
  dataDirectory : String
  nodeUrl : String
  streamUrl : String
  environment : String
  topic : String
  issuer : String
  sessionSeconds : Int
  featuresFile : Option String
  workers : Nat
  taskSeconds : Nat
  queueCapacity : Nat
  tls : Option TlsFiles
  deriving DecidableEq, Repr

namespace Settings

def present? (lookup : String → Option String) (name : String) : Option String :=
  (lookup name).filter (fun value => !Text.isBlankText value)

def natural (limit default : Nat) (value : Option String) : Nat :=
  (value.bind (fun text => Text.Numeral.natural? limit (Text.trim text))).getD default

def integer (default : Int) (value : Option String) : Int :=
  (value.bind (fun text => Text.Numeral.integer? (UInt64.size / 2) (Text.trim text))).getD default

def schemes : List String := ["http", "https", "ws", "wss"]

def nodeAddress (name value : String) : Except SettingsError Net.Url :=
  match Net.Url.parse value with
  | .error reason => .error (.badUrl name reason.message)
  | .ok url => if url.scheme ∈ schemes then .ok url else .error (.badScheme name)

/-- The address of the stream beside that of single reads: as many characters as the scheme has give
way to the scheme of sockets, and nothing changes where it is one already. -/
def streamBeside (url : Net.Url) (text : String) : String :=
  let rest := String.ofList (text.toList.drop url.scheme.length)
  match url.scheme with
  | "http" => "ws" ++ rest
  | "https" => "wss" ++ rest
  | _ => text

def tlsFiles (certificate key : Option String) : Option TlsFiles := do
  some ⟨← certificate, ← key⟩

def load (lookup : String → Option String) : Except SettingsError Settings := do
  let read := present? lookup
  let textOr (name default : String) := (read name).getD default
  let nodeUrl := textOr "RPC_URL" "http://127.0.0.1:8545"
  let address ← nodeAddress "RPC_URL" nodeUrl
  let streamUrl ← match read "RPC_WS_URL" with
    | some url => (nodeAddress "RPC_WS_URL" url).map (fun _ => url)
    | none => .ok (streamBeside address nodeUrl)
  .ok {
    nodeUrl, streamUrl
    host := textOr "HOST" "0.0.0.0"
    port := natural UInt16.size 8080 (read "PORT")
    dataDirectory := textOr "DATA_DIR" "./data"
    environment := textOr "ENV" "local"
    topic := textOr "SIGNUP_TOPIC" "user-signup"
    issuer := textOr "JWT_ISSUER" "gallery"
    sessionSeconds := integer 172800 (read "JWT_TTL_SECS")
    featuresFile := read "FEATURES_FILE"
    workers := natural UInt64.size 16 (read "UPDATE_WORKERS")
    taskSeconds := natural UInt64.size 60 (read "UPDATE_TASK_TIMEOUT_SECS")
    queueCapacity := natural UInt64.size 1024 (read "UPDATE_QUEUE_CAPACITY")
    tls := tlsFiles (read "TLS_CERT_PATH") (read "TLS_KEY_PATH") }

def ofEnvironment (lookup : String → Option Bytes) : Except SettingsError Settings :=
  load (fun name => (lookup name).bind text?)

def isLocal (s : Settings) : Bool := s.environment.toList.map Char.toLower = "local".toList

def bindAddress (s : Settings) : String := s.host ++ ":" ++ Text.Numeral.decimal s.port

end Settings
end HolderGate
