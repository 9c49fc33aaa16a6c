import Gateway.Auth.Claims
import Gateway.Base64
import Gateway.Headers
import Gateway.Json.Reader

/-! # Credentials: the token that a request carries, its claims, and why it is refused -/
namespace Gateway

/-- Why a caller is not authenticated. -/
inductive Denial
  | missing
  | malformed (reason : String)
  | expired
  | rejected (reason : String)
  | unavailable (reason : String)
  | keyUnavailable (reason : String)
  | notConfigured
  deriving DecidableEq, Repr

def Denial.message : Denial → String
  | .missing => "missing bearer credential"
  | .malformed reason => "malformed credential: " ++ reason
  | .expired => "credential has expired"
  | .rejected reason => "credential rejected: " ++ reason
  | .unavailable reason => "authentication authority unavailable: " ++ reason
  | .keyUnavailable reason => "signing key unavailable: " ++ reason
  | .notConfigured => "route requires authentication but no authentication is configured"

namespace Credential
open Text

/-- A value without the name of the scheme for bearers; other schemes belong to the token. -/
def withoutScheme (value : List Char) : List Char :=
  match cutChars ' ' value with
  | (scheme, some rest) =>
    if sameLetters (String.ofList scheme) "bearer" then trimChars rest else value
  | (whole, none) => if sameLetters (String.ofList whole) "bearer" then [] else value

/-- The token in the authorization field. -/
def ofHeaders (h : Headers) : Except Denial String :=
  match h.first? "authorization" with
  | none => .error .missing
  | some value =>
    match Headers.text? value with
    | none => .error (.malformed "authorization header is not ASCII")
    | some text =>
      match withoutScheme (trimChars text.toList) with
      | [] => .error .missing
      | token => .ok (String.ofList token)

def withoutPadding (cs : List Char) : List Char := (cs.reverse.dropWhile (· == '=')).reverse

/-- What the middle one of a token's three parts says. Nothing vouches for it. -/
def claims (token : String) : Except Denial Claims :=
  match splitChars '.' token.toList with
  | [_, payload, _] =>
    match Base64.decode (utf8 (String.ofList (withoutPadding payload))) with
    | .error e => .error (.malformed ("payload is not base64url: " ++ e.message))
    | .ok bytes =>
      match (Json.readLoosely bytes).bind Claims.decode? with
      | some c => .ok c
      | none => .error (.malformed "payload is not a claims object:")
  | _ => .error (.malformed "expected three dot-separated parts")

end Credential
end Gateway
