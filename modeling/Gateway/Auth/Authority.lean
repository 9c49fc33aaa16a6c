import Gateway.Auth.Decisions
import Gateway.Exchange

/-! # Authentication by an authority that is asked over the network -/
namespace Gateway
open Text

/-- What an authority says about a token. -/
inductive Verdict
  | accepted
  | rejected (reason : String)
  | unavailable (reason : String)
  deriving DecidableEq, Repr

structure Remote where
  negativeTtl : Duration
  callTimeout : Duration
  deriving DecidableEq, Repr

namespace Remote

def standard : Remote := ⟨.ofSecs 60, .ofSecs 5⟩

/-- How a call starts: it is settled at once, or the authority must be asked about a token that
looks good. -/
inductive Opening
  | settled (result : Except Denial Claims)
  | asking (token : String) (claims : Claims) (exp : Int)
  deriving Repr

def openToken (m : Moment) (token : String) (d : Decisions) : Opening :=
  match d.answer m.steady token with
  | some result => .settled result
  | none =>
    match Credential.claims token with
    | .error e => .settled (.error e)
    | .ok claims =>
      match claims.exp with
      | none => .settled (.error (.malformed "missing exp claim"))
      | some exp =>
        if (remainingLifetime m exp).isNone then .settled (.error .expired)
        else .asking token claims exp

def opening (m : Moment) (h : Headers) (d : Decisions) : Opening :=
  match Credential.ofHeaders h with
  | .error e => .settled (.error e)
  | .ok token => openToken m token d

/-- How a call ends when the authority has spoken: its answer is kept, an acceptance for as long as
the token lives. -/
def closing (r : Remote) (m : Moment) (token : String) (claims : Claims) (exp : Int)
    (v : Verdict) (d : Decisions) : Except Denial Claims × Decisions :=
  match v with
  | .accepted =>
    (.ok claims, match remainingLifetime m exp with
      | some ttl => d.set m.steady token true ttl
      | none => d)
  | .rejected reason => (.error (.rejected reason), d.set m.steady token false r.negativeTtl)
  | .unavailable reason => (.error (.unavailable reason), d)

/-- An answer and the time that it takes. -/
structure Reply where
  verdict : Verdict
  delay : Duration
  deriving DecidableEq, Repr

/-- What a call makes of an authority that is silent until the timeout. -/
def silence (r : Remote) : Verdict := .unavailable ("no answer within " ++ r.callTimeout.display)

/-- What comes of a reply when the waiting ends at the timeout. -/
def await (r : Remote) (reply : Reply) : Reply :=
  if reply.delay.nanos ≤ r.callTimeout.nanos then reply else ⟨r.silence, r.callTimeout⟩

/-- The end of a call: its result, the decisions after it, whether the authority was asked, and
the time it took. -/
structure Outcome where
  result : Except Denial Claims
  decisions : Decisions
  asked : Bool
  elapsed : Duration
  deriving Repr

/-- A whole call that nothing else interrupts. -/
def authenticate (r : Remote) (authority : String → Reply) (m : Moment) (h : Headers)
    (d : Decisions) : Outcome :=
  match opening m h d with
  | .settled result => ⟨result, d, false, .zero⟩
  | .asking token claims exp =>
    let reply := r.await (authority token)
    let (result, d') := r.closing (m.after reply.delay) token claims exp reply.verdict d
    ⟨result, d', true, reply.delay⟩

end Remote

/-- What an authority at an address says by its answer: any success accepts a token, and only two
codes reject it, with the body as the reason. -/
def Exchange.verdict (url : String) : Exchange → Verdict
  | failed reason => .unavailable reason
  | answered status body =>
    if 200 ≤ status && status < 300 then .accepted
    else if status = 401 || status = 403 then
      let reason := (ofUtf8? body).getD ""
      .rejected (if reason.isEmpty then "not authenticated" else reason)
    else .unavailable ("unexpected status " ++ describeStatus status ++ " from " ++ url)

end Gateway
