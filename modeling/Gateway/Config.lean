import Gateway.Duration.Reader
import Gateway.Json

/-! # The configuration of a gateway -/
namespace Gateway

/-- Where route definitions come from. -/
inductive RepositoryConfig
  | file (path : String)
  | http (url : String) (timeoutSecs : Nat)
  deriving DecidableEq, Repr

/-- How the table is kept up to date. -/
structure DetectorConfig where
  interval : String
  channelCapacity : Nat
  deriving DecidableEq, Repr

/-- Where the secret for signatures comes from. -/
inductive KeyConfig
  | env (name : String)
  | fixed (key : String)
  | http (url field : String)
  deriving DecidableEq, Repr

/-- How callers are identified: by a remote authority, or by the signatures of their tokens. -/
inductive AuthConfig
  | remote (url timeout negativeTtl : String)
  | signed (key : KeyConfig) (refreshInterval negativeTtl : String)
  deriving DecidableEq, Repr

structure LoggingConfig where
  level : String
  json : Bool
  deriving DecidableEq, Repr

/-- Lengths of time are kept as they are written. -/
structure Config where
  listenAddr : String
  repository : RepositoryConfig
  detector : DetectorConfig
  auth : Option AuthConfig
  drainTimeout : String
  logging : LoggingConfig
  deriving DecidableEq, Repr

namespace Config

def defaultListenAddr : String := "0.0.0.0:8080"

def defaultTimeoutSecs : Nat := 10

def defaultDetector : DetectorConfig := ⟨"30s", 16⟩

def defaultAuthTimeout : String := "5s"

def defaultNegativeTtl : String := "1m"

def defaultRefreshInterval : String := "5m"

def defaultDrainTimeout : String := "30s"

def defaultLogging : LoggingConfig := ⟨"info", true⟩

/-- Routes from files, and everything else by default. -/
def ofFiles (path : String) : Config :=
  ⟨defaultListenAddr, .file path, defaultDetector, none, defaultDrainTimeout, defaultLogging⟩

/-- The length of time that a text stands for, or another one if it stands for none. -/
def durationOr (raw : String) (fallback : Duration) : Duration :=
  match Duration.read raw with
  | .ok d => d
  | .error _ => fallback

def interval (c : Config) : Duration := durationOr c.detector.interval (.ofSecs 30)

def drainSpan (c : Config) : Duration := durationOr c.drainTimeout (.ofSecs 30)

end Config

namespace AuthConfig

def negativeTtl : AuthConfig → Duration
  | remote _ _ ttl | signed _ _ ttl => Config.durationOr ttl (.ofSecs 60)

/-- How long a call to the authority may take. -/
def callTimeout : AuthConfig → Duration
  | remote _ timeout _ => Config.durationOr timeout (.ofSecs 5)
  | signed .. => .ofSecs 5

def refreshInterval : AuthConfig → Duration
  | signed _ interval _ => Config.durationOr interval (.ofSecs 300)
  | remote .. => .ofSecs 300

def encodeKey : KeyConfig → Json
  | .env name => .record [("type", .text "env"), ("var", .text name)]
  | .fixed key => .record [("type", .text "static"), ("key", .text key)]
  | .http url field => .record [("type", .text "http"), ("url", .text url), ("field", .text field)]

def encode : AuthConfig → Json
  | remote url timeout ttl => .record [("type", .text "remote"), ("url", .text url),
      ("timeout", .text timeout), ("negative_ttl", .text ttl)]
  | signed key interval ttl => .record [("type", .text "jwt"), ("key_source", encodeKey key),
      ("refresh_interval", .text interval), ("negative_ttl", .text ttl)]

end AuthConfig

def RepositoryConfig.encode : RepositoryConfig → Json
  | file path => .record [("type", .text "file"), ("path", .text path)]
  | http url timeout => .record [("type", .text "http"), ("url", .text url),
      ("timeout_secs", .ofNat timeout)]

def Config.encode (c : Config) : Json :=
  .record [("listen_addr", .text c.listenAddr), ("repository", c.repository.encode),
    ("change_detector", .record [("interval", .text c.detector.interval),
      ("channel_capacity", .ofNat c.detector.channelCapacity)]),
    ("auth", .ofOption AuthConfig.encode c.auth),
    ("shutdown", .record [("drain_timeout", .text c.drainTimeout)]),
    ("logging", .record [("level", .text c.logging.level), ("json", .bool c.logging.json)])]

end Gateway
