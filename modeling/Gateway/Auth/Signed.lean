import Gateway.Auth.Claims
import Gateway.Auth.Credential
import Gateway.Base64
import Gateway.Json.Reader
import Gateway.Record
import Gateway.Sha256

/-! # Signed tokens: header, payload and a signature under a shared secret -/
namespace Gateway

/-! ## Public keys as JSON records -/

namespace WebKey
open Record

def algorithms : List String := [
  "HS256", "HS384", "HS512", "ES256", "ES384", "RS256", "RS384", "RS512", "PS256", "PS384", "PS512",
  "EdDSA"]

def keyAlgorithms : List String := algorithms ++ ["RSA1_5", "RSA-OAEP", "RSA-OAEP-256"]

def curves : List String := ["P-256", "P-384", "P-521", "Ed25519"]

def commonSlots : List Slot :=
  slotsOf ["use", "key_ops", "alg", "kid", "x5u", "x5c", "x5t", "x5t#S256"]

def readCommon (fields : List (String × Json)) : Option Unit := do
  let r ← named fields commonSlots
  let _ ← r.optional "use" Source.text?
  let _ ← r.optional "key_ops" (listOf Source.text?)
  let _ ← r.optional "alg" (choice? keyAlgorithms)
  for name in ["kid", "x5u", "x5t", "x5t#S256"] do
    let _ ← r.optional name Source.text?
  let _ ← r.optional "x5c" (listOf Source.text?)

/-- The fields of each kind of key beside the kind: its curve, if it has one, and texts. -/
def kinds : List (String × Bool × List String) := [
  ("EC", true, ["x", "y"]), ("RSA", false, ["n", "e"]), ("oct", false, ["k"]), ("OKP", true, ["x"])]

def readKind (fields : List (String × Json)) (kind : String × Bool × List String) : Option Unit := do
  let (name, curved, texts) := kind
  let r ← named fields (slotsOf ("kty" :: (if curved then "crv" :: texts else texts)))
  let _ ← r.required "kty" (choice? [name])
  if curved then
    let _ ← r.required "crv" (choice? curves)
  for t in texts do
    let _ ← r.required t Source.text?

/-- Whether a value describes a key of one of the kinds. -/
def isReadable (x : Json) : Bool :=
  match x with
  | .record fields => (readCommon fields).isSome && kinds.any fun k => (readKind fields k).isSome
  | _ => false

end WebKey

/-! ## Tokens -/

namespace Signed
open Text Record

inductive Fault
  | form
  | encoding (reason : Base64.Fault)
  | json
  | algorithm
  | signature
  | noExpiry
  | expired
  | audience
  deriving DecidableEq, Repr

def Fault.message : Fault → String
  | .form => "InvalidToken"
  | .encoding reason => "Base64 error: " ++ reason.message
  | .json => "JSON error:"
  | .algorithm => "InvalidAlgorithm"
  | .signature => "InvalidSignature"
  | .noExpiry => "Missing required claim: exp"
  | .expired => "ExpiredSignature"
  | .audience => "InvalidAudience"

def Fault.denial : Fault → Denial
  | .expired => .expired
  | .signature => .rejected (Fault.message .signature)
  | e => .malformed e.message

/-- The parts of a token: header, payload and signature, cut at its last two dots. -/
structure Parts where
  header : String
  payload : String
  signature : String
  deriving DecidableEq, Repr

/-- The text before the last dot and the text after it. -/
def cutLast? (cs : List Char) : Option (List Char × List Char) :=
  match cutChars '.' cs.reverse with
  | (after, some before) => some (before.reverse, after.reverse)
  | (_, none) => none

def parts? (token : String) : Option Parts := do
  let (message, signature) ← cutLast? token.toList
  let (header, payload) ← cutLast? message
  return ⟨String.ofList header, String.ofList payload, String.ofList signature⟩

/-- What the signature is about. -/
def Parts.message (p : Parts) : String := p.header ++ "." ++ p.payload

def jsonOf (part : String) : Except Fault Json :=
  match Base64.decode (utf8 part) with
  | .error e => .error (.encoding e)
  | .ok bytes =>
    match Json.readLoosely bytes with
    | some j => .ok j
    | none => .error .json

def headerSlots : List Slot :=
  slotsOf ["typ", "alg", "cty", "jku", "jwk", "kid", "x5u", "x5c", "x5t", "x5t#S256"]

/-- The algorithm that a header names, if all of the header can be read. -/
def algorithm? (header : Json) : Option String := do
  let r ← collectWhole? headerSlots header
  for name in ["typ", "cty", "jku", "kid", "x5u", "x5t", "x5t#S256"] do
    let _ ← r.optional name Source.text?
  let _ ← r.optional "x5c" (listOf Source.text?)
  let _ ← r.optional "jwk" fun k => if WebKey.isReadable k then some () else none
  r.required "alg" (choice? WebKey.algorithms)

/-- What is checked of a payload besides its claims. -/
structure Terms where
  exp : Option Nat
  audience : Bool
  deriving DecidableEq, Repr

def isAudience : Json → Bool
  | .text _ => true
  | .list xs => xs.all fun x => x.text?.isSome
  | _ => false

/-- A date that holds parts of its own cannot be passed over. -/
def isFlat : Json → Bool
  | .list (_ :: _) | .record (_ :: _) | .void => false
  | _ => true

def termSlots : List Slot := slotsOf ["exp", "nbf", "sub", "iss", "aud"]

def terms? (payload : Json) : Option Terms := do
  let r ← collectWhole? termSlots payload
  if !(((r.value? "exp").toList ++ (r.value? "nbf").toList).all isFlat) then none
  return ⟨(r.value? "exp").bind Json.nat?, ((r.value? "aud").map isAudience).getD false⟩

/-- A token must expire, and not before now; one meant for an audience is not meant for us. -/
def check (now : Nat) (t : Terms) : Except Fault Unit :=
  match t.exp with
  | none => .error .noExpiry
  | some exp =>
    if exp < now then .error .expired
    else if t.audience then .error .audience
    else .ok ()

def signature (key : String) (message : String) : String :=
  Base64.encodeText (Sha256.authenticate (utf8 key) (utf8 message))

/-- The claims of a token that is signed with the key and is good at a time in whole seconds. -/
def decode (key token : String) (now : Nat) : Except Fault Claims := do
  match parts? token with
  | none => .error .form
  | some p =>
    match algorithm? (← jsonOf p.header) with
    | none => .error .json
    | some algorithm =>
      if algorithm ≠ "HS256" then .error .algorithm
      if signature key p.message ≠ p.signature then .error .signature
      let payload ← jsonOf p.payload
      match Claims.decode? payload, terms? payload with
      | some claims, some terms =>
        check now terms
        return claims
      | _, _ => .error .json

end Signed
end Gateway
