import Gateway.Auth.Credential
import Gateway.Headers
import Gateway.Json.Writer
import Gateway.Lookup
import Gateway.Uri

/-! # Requests, and why one gets no answer from a backend -/
namespace Gateway
open Text

structure Request where
  method : String
  uri : Uri
  headers : Headers
  body : String
  deriving DecidableEq, Repr

structure Response where
  status : Nat
  headers : Headers
  body : String
  deriving DecidableEq, Repr

namespace Request

/-- The host that the request is for: that of its host field, if it can be read, or of its URI. -/
def host? (r : Request) : Option String := (r.headers.readable? "host").or r.uri.host?

def lookup (r : Request) : Lookup := ⟨r.host?, r.uri.path, r.method⟩

end Request

/-- Why a backend gave no response. -/
inductive SendFault
  | connection (reason : String)
  | timeout (limit : Duration)
  | invalidRequest (reason : String)
  deriving DecidableEq, Repr

def SendFault.message : SendFault → String
  | .connection reason => "Connection error: " ++ reason
  | .timeout limit => "Timeout error after " ++ limit.display
  | .invalidRequest reason => "Invalid request: " ++ reason

inductive Failure
  | noRoute (method path : String)
  | unauthenticated (route : String) (denial : Denial)
  | proxy (route target : String) (fault : SendFault)
  | internal (reason : String)
  deriving DecidableEq, Repr

namespace Failure

def message : Failure → String
  | noRoute method path => "no route matches " ++ method ++ " " ++ path
  | unauthenticated route denial =>
    "authentication failed for route '" ++ route ++ "': " ++ denial.message
  | proxy route target fault =>
    "backend " ++ target ++ " for route '" ++ route ++ "' failed: " ++ fault.message
  | internal reason => "internal error: " ++ reason

def status : Failure → Nat
  | noRoute .. => 404
  | unauthenticated .. => 401
  | proxy .. => 502
  | internal .. => 500

/-- What the sender is told; the details are not for senders. -/
def publicMessage : Failure → String
  | noRoute .. => "No route found for this request"
  | unauthenticated .. => "Authentication required"
  | proxy .. => "Service unavailable"
  | internal .. => "Internal server error"

def jsonHeaders : Headers := ⟨[("content-type", utf8 "application/json")]⟩

def response (f : Failure) : Response :=
  ⟨f.status, jsonHeaders, (Json.record [("error", .text f.publicMessage)]).render⟩

end Failure
end Gateway
