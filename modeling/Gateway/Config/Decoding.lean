import Gateway.Config
import Gateway.Record

/-! # Configurations out of values of any format -/
namespace Gateway
open Record

def RepositoryConfig.decode? {ν : Type} [Source ν] (x : ν) : Option RepositoryConfig := do
  let t ← tagged? "type" x
  match t.tag with
  | "file" =>
    let r ← t.collect? (slotsOf ["path"])
    return .file (← r.required "path" Json.text?)
  | "http" =>
    let r ← t.collect? (slotsOf ["url", "timeout_secs"])
    return .http (← r.required "url" Json.text?)
      (← r.withDefault "timeout_secs" Config.defaultTimeoutSecs unsigned64?)
  | _ => none

def KeyConfig.decode? (x : Json) : Option KeyConfig := do
  let t ← tagged? "type" x
  match t.tag with
  | "env" =>
    let r ← t.collect? (slotsOf ["var"])
    return .env (← r.required "var" Json.text?)
  | "static" =>
    let r ← t.collect? (slotsOf ["key"])
    return .fixed (← r.required "key" Json.text?)
  | "http" =>
    let r ← t.collect? (slotsOf ["url", "field"])
    return .http (← r.required "url" Json.text?) (← r.required "field" Json.text?)
  | _ => none

def AuthConfig.decode? {ν : Type} [Source ν] (x : ν) : Option AuthConfig := do
  let t ← tagged? "type" x
  match t.tag with
  | "remote" =>
    let r ← t.collect? (slotsOf ["url", "timeout", "negative_ttl"])
    return .remote (← r.required "url" Json.text?)
      (← r.withDefault "timeout" Config.defaultAuthTimeout Json.text?)
      (← r.withDefault "negative_ttl" Config.defaultNegativeTtl Json.text?)
  | "jwt" =>
    let r ← t.collect? (slotsOf ["key_source", "refresh_interval", "negative_ttl"])
    return .signed (← r.required "key_source" KeyConfig.decode?)
      (← r.withDefault "refresh_interval" Config.defaultRefreshInterval Json.text?)
      (← r.withDefault "negative_ttl" Config.defaultNegativeTtl Json.text?)
  | _ => none

section
variable {ν : Type} [Source ν]

def DetectorConfig.decode? (x : ν) : Option DetectorConfig := do
  let r ← collect? (slotsOf ["interval", "channel_capacity"]) x
  return {
    interval := ← r.withDefault "interval" Config.defaultDetector.interval Source.text?
    channelCapacity :=
      ← r.withDefault "channel_capacity" Config.defaultDetector.channelCapacity unsigned64? }

def Config.decodeDrain? (x : ν) : Option String := do
  let r ← collect? (slotsOf ["drain_timeout"]) x
  r.withDefault "drain_timeout" Config.defaultDrainTimeout Source.text?

def LoggingConfig.decode? (x : ν) : Option LoggingConfig := do
  let r ← collect? (slotsOf ["level", "json"]) x
  return {
    level := ← r.withDefault "level" Config.defaultLogging.level Source.text?
    json := ← r.withDefault "json" Config.defaultLogging.json Source.flag? }

def Config.slots : List Slot :=
  slotsOf ["listen_addr", "repository", "change_detector", "auth", "shutdown", "logging"]

/-- Only the repository is needed. -/
def Config.decode? (x : ν) : Option Config := do
  let r ← collect? Config.slots x
  return {
    listenAddr := ← r.withDefault "listen_addr" Config.defaultListenAddr Source.text?
    repository := ← r.required "repository" RepositoryConfig.decode?
    detector := ← r.withDefault "change_detector" Config.defaultDetector DetectorConfig.decode?
    auth := ← r.optional "auth" AuthConfig.decode?
    drainTimeout := ← r.withDefault "shutdown" Config.defaultDrainTimeout Config.decodeDrain?
    logging := ← r.withDefault "logging" Config.defaultLogging LoggingConfig.decode? }

end
end Gateway
