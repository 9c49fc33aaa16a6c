import Gateway.Auth.KeySource
import Gateway.Auth.Keyed
import Gateway.Config.Validation
import Gateway.Detector
import Gateway.Repository.Files
import Gateway.Repository.Service
import Gateway.Text

/-! # Starting the gateway -/
namespace Gateway
open Text

/-! ## Filters of log messages, by level and by target -/

namespace LogFilter

def isLevel (s : String) : Bool :=
  ["", "0", "1", "2", "3", "4", "5", "off", "error", "warn", "info", "debug", "trace"].contains
    (lowerAscii s)

/-- Whether the text behind a target, or behind a span in brackets, is nothing or a level. -/
def endsWell : List Char → Bool
  | [] => true
  | '=' :: cs => isLevel (String.ofList cs)
  | _ => false

/-- A level, a target, a span in brackets, or some of these with a level behind an equals sign. -/
def isDirective (s : String) : Bool :=
  match trimChars s.toList with
  | [] => false
  | c :: cs =>
    if c == '[' || c == '-' || c == ':' || c == '_' || c.isAlphanum then
      let rest := (c :: cs).dropWhile fun x => x != '=' && x != '['
      match rest with
      | '[' :: span =>
        match cutChars ']' span with
        | (_, some behind) => endsWell behind
        | (_, none) => false
      | rest => endsWell rest
    else false

def isReadable (s : String) : Bool := s.isEmpty || (split ',' s).all isDirective

end LogFilter

/-! ## What the gateway finds and does -/

/-- What the gateway finds where it starts. -/
structure Surroundings where
  /-- What stands at a path. -/
  files : String → Option FileTree
  environment : Config.Environment
  /-- What comes of a call to an address. -/
  call : String → Exchange
  /-- The time in milliseconds since the start of 1970. -/
  clock : Int
  /-- Whether it can listen at an address. -/
  binds : Socket → Bool

namespace Surroundings

/-- The text of the file that a path leads to. -/
def text? (s : Surroundings) (path : String) : Option String :=
  match s.files path with
  | some (.file bytes _) => ofUtf8? bytes
  | _ => none

def load (s : Surroundings) (path : String) : Except Config.LoadFault Config :=
  Config.load path (s.text? path) s.environment

/-- What the configured source gives when it is asked for the first time. -/
def fetch (s : Surroundings) : RepositoryConfig → Fetched
  | .file path => RouteFiles.routes path (s.files path)
  | .http url _ => (RouteService.routes url (fun _ => s.clock) (s.call url) []).1

/-- Whether a filter for log messages is set that takes the place of the configured one. -/
def hasLogFilter (s : Surroundings) : Bool :=
  (s.environment.lookup "RUST_LOG").any LogFilter.isReadable

end Surroundings

/-- Why the gateway does not start. -/
inductive StartFault
  | config (reason : Config.LoadFault)
  | logLevel (level : String)
  | invalid (complaint : String)
  | watch (path : String)
  | routes (reason : RepositoryFault)
  | key (reason : Denial)
  | listen (address : String)
  deriving DecidableEq, Repr

def StartFault.message (path : String) : StartFault → String
  | config _ => "Failed to load configuration from " ++ path
  | logLevel _ => "Failed to initialize tracing"
  | invalid _ => "Invalid configuration"
  | watch directory => "Failed to watch route directory " ++ directory
  | routes _ => "Initial route load failed"
  | key _ => "Failed to load JWT signing key"
  | listen address => "Failed to bind to " ++ address

/-- A gateway that is ready to serve. -/
structure Started where
  config : Config
  address : Socket
  table : Snapshot

namespace Startup

def checkLevel (s : Surroundings) (c : Config) : Except StartFault Unit :=
  if s.hasLogFilter || LogFilter.isReadable c.logging.level then .ok ()
  else .error (.logLevel c.logging.level)

def checkValid (c : Config) : Except StartFault Unit :=
  match c.complaint? with
  | none => .ok ()
  | some complaint => .error (.invalid complaint)

/-- Files are watched, so that there must be some. -/
def checkWatched (s : Surroundings) : RepositoryConfig → Except StartFault Unit
  | .file path => if (s.files path).isSome then .ok () else .error (.watch path)
  | .http _ _ => .ok ()

/-- Where secrets are used, the first one must be there. -/
def checkKey (s : Surroundings) : Option AuthConfig → Except StartFault Unit
  | some (.signed key _ _) =>
    match (Keyed.standard.refresh (key.fetch s.environment s.call)).1 with
    | .ok () => .ok ()
    | .error e => .error (.key e)
  | _ => .ok ()

def checkListening (s : Surroundings) (c : Config) : Except StartFault Socket :=
  match Socket.read? c.listenAddr with
  | some address => if s.binds address then .ok address else .error (.listen c.listenAddr)
  | none => .error (.listen c.listenAddr)

/-- Takes the steps from a configuration to a gateway that serves, up to the first that fails. -/
def run (s : Surroundings) (path : String) : Except StartFault Started := do
  let c ← (s.load path).mapError StartFault.config
  checkLevel s c
  checkValid c
  checkWatched s c.repository
  let (loaded, table) := Detector.initialLoad (s.fetch c.repository) .empty
  let _ ← loaded.mapError StartFault.routes
  checkKey s c.auth
  return ⟨c, ← checkListening s c, table⟩

end Startup
end Gateway
