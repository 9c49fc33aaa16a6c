import Gateway.Auth.Decisions
import Gateway.Auth.Signed

/-! # Authentication by a shared secret that is fetched anew from time to time -/
namespace Gateway

/-- The secret in force, none before the first one is fetched. -/
structure Keyed where
  key : Option String
  negativeTtl : Duration
  deriving DecidableEq, Repr

namespace Keyed

def standard : Keyed := ⟨none, .ofSecs 60⟩

def defaultInterval : Duration := .ofSecs 300

/-- A fetched secret takes the place of the one before, unless it is empty or failed to come. -/
def refresh (fetched : Except Denial String) (k : Keyed) : Except Denial Unit × Keyed :=
  match fetched with
  | .error e => (.error e, k)
  | .ok secret =>
    if secret.isEmpty then (.error (.keyUnavailable "empty signing secret"), k)
    else (.ok (), { k with key := some secret })

def verify (m : Moment) (token : String) (k : Keyed) : Except Denial Claims :=
  match k.key with
  | none => .error (.keyUnavailable "no signing key loaded")
  | some key =>
    match Signed.decode key token m.date.secs with
    | .ok claims => .ok claims
    | .error e => .error e.denial

/-- The decisions after a token was verified: an acceptance is kept for as long as the token lives,
a wrong signature for a fixed time, and nothing else. -/
def remember (m : Moment) (token : String) (result : Except Denial Claims) (k : Keyed)
    (d : Decisions) : Decisions :=
  match result with
  | .ok claims =>
    match claims.exp.bind (remainingLifetime m) with
    | some ttl => d.set m.steady token true ttl
    | none => d
  | .error (.rejected _) => d.set m.steady token false k.negativeTtl
  | .error _ => d

def authenticateToken (m : Moment) (token : String) (k : Keyed) (d : Decisions) :
    Except Denial Claims × Decisions :=
  match d.answer m.steady token with
  | some result => (result, d)
  | none =>
    let result := k.verify m token
    (result, k.remember m token result d)

def authenticate (m : Moment) (h : Headers) (k : Keyed) (d : Decisions) :
    Except Denial Claims × Decisions :=
  match Credential.ofHeaders h with
  | .error e => (.error e, d)
  | .ok token => k.authenticateToken m token d

/-- Ticks at which the secret is fetched; a span of zero means the default. -/
def refresher (now interval : Duration) : Ticker :=
  ⟨now, if interval.isZero then defaultInterval else interval, 0⟩

end Keyed
end Gateway
