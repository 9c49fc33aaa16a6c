import Gateway.Config
import Gateway.Socket
import Gateway.Url.Reader

/-! # Which configurations can be served -/
namespace Gateway.Config
open Text

/-- What is wrong with the value of a field. -/
inductive Problem
  | zeroDuration
  | badDuration (raw : String) (reason : Duration.Fault)
  | badUrl (reason : Url.Fault)
  | badScheme (scheme : String)
  | noHost
  | zero
  | tooFew
  deriving DecidableEq, Repr

def Problem.message : Problem → String
  | .zeroDuration => "duration must be greater than zero"
  | .badDuration raw reason => "Invalid duration '" ++ raw ++ "': " ++ reason.message
  | .badUrl reason => "Invalid URL format: " ++ reason.message
  | .badScheme scheme => "URL scheme must be 'http' or 'https', got '" ++ scheme ++ "'"
  | .noHost => "URL must have a valid host"
  | .zero => "must be greater than zero"
  | .tooFew => "must be at least 1"

inductive Fault
  | missing (field : String)
  | invalid (field : String) (problem : Problem)
  | listenAddress (address : String)
  deriving DecidableEq, Repr

def Fault.message : Fault → String
  | .missing field => "Missing required field: " ++ field
  | .invalid field problem => "Invalid field '" ++ field ++ "': " ++ problem.message
  | .listenAddress address => "Invalid listen address '" ++ address ++ "': Must be in format " ++
      "'IP:PORT' (e.g., '127.0.0.1:3000' or '0.0.0.0:8080')"

def checkListenAddr (address : String) : List Fault :=
  if (Socket.read? address).isSome then [] else [.listenAddress address]

def checkPresent (field value : String) : List Fault :=
  if allBlank value then [.missing field] else []

def durationProblem? (raw : String) : Option Problem :=
  match Duration.read raw with
  | .ok d => if d.isZero then some .zeroDuration else none
  | .error e => some (.badDuration raw e)

def checkDuration (field raw : String) : List Fault :=
  ((durationProblem? raw).map (Fault.invalid field)).toList

def urlProblem? (raw : String) : Option Problem :=
  match Url.read raw with
  | .error e => some (.badUrl e)
  | .ok url =>
    if url.scheme ≠ "http" && url.scheme ≠ "https" then some (.badScheme url.scheme)
    else if url.host.isNone then some .noHost
    else none

def checkUrl (field raw : String) : List Fault := ((urlProblem? raw).map (Fault.invalid field)).toList

def checkRepository : RepositoryConfig → List Fault
  | .file path => checkPresent "repository.path" path
  | .http url timeout =>
    checkUrl "repository.url" url ++
      if timeout = 0 then [.invalid "repository.timeout_secs" .zero] else []

/-- A fixed key may be blank, but not empty. -/
def checkKey : KeyConfig → List Fault
  | .env name => checkPresent "auth.key_source.var" name
  | .fixed key => if key.isEmpty then [.missing "auth.key_source.key"] else []
  | .http url field => checkUrl "auth.key_source.url" url ++ checkPresent "auth.key_source.field" field

def checkAuth : AuthConfig → List Fault
  | .remote url timeout ttl =>
    checkUrl "auth.url" url ++ checkDuration "auth.timeout" timeout ++
      checkDuration "auth.negative_ttl" ttl
  | .signed key interval ttl =>
    checkKey key ++ checkDuration "auth.refresh_interval" interval ++
      checkDuration "auth.negative_ttl" ttl

/-- All that is wrong with a configuration, in the order of its sections. -/
def faults (c : Config) : List Fault :=
  checkListenAddr c.listenAddr ++ checkRepository c.repository ++
    checkDuration "change_detector.interval" c.detector.interval ++
    (if c.detector.channelCapacity = 0 then [.invalid "change_detector.channel_capacity" .tooFew]
      else []) ++
    (match c.auth with | some auth => checkAuth auth | none => []) ++
    checkDuration "shutdown.drain_timeout" c.drainTimeout ++
    checkPresent "logging.level" c.logging.level

def numbered : Nat → List Fault → String
  | _, [] => ""
  | n, f :: fs => "  " ++ toString n ++ ". " ++ f.message ++ "\n" ++ numbered (n + 1) fs

def listing : List Fault → String
  | [f] => f.message
  | fs => "Found " ++ toString fs.length ++ " validation errors:\n" ++ numbered 1 fs

/-- What is to be said about a configuration that cannot be served. -/
def complaint? (c : Config) : Option String :=
  match c.faults with
  | [] => none
  | fs => some ("Validation failed: " ++ listing fs)

end Gateway.Config
