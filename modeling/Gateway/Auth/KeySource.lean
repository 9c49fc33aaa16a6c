import Gateway.Auth.Credential
import Gateway.Config.Loading
import Gateway.Exchange

/-! # Where secrets for signatures come from -/
namespace Gateway

/-- The secret in a field of an answered JSON object. -/
def Exchange.secret (url field : String) (x : Exchange) : Except Denial String :=
  match x.body url with
  | .error reason => .error (.keyUnavailable reason)
  | .ok body =>
    match Json.readBytes body with
    | none => .error (.keyUnavailable undecodableBody)
    | some answer =>
      match (answer.get? field).bind Json.text? with
      | some secret => .ok secret
      | none => .error (.keyUnavailable ("field '" ++ field ++ "' missing from key response"))

namespace KeyConfig

/-- The secret that a source gives, by the environment and by what comes of a call. -/
def fetch (environment : Config.Environment) (call : String → Exchange) :
    KeyConfig → Except Denial String
  | env name =>
    match environment.lookup name with
    | some secret => .ok secret
    | none => .error (.keyUnavailable (name ++ ": environment variable not found"))
  | fixed key => .ok key
  | http url field => (call url).secret url field

end KeyConfig
end Gateway
