import Gateway.Assoc
import Gateway.Auth.Credential
import Gateway.Duration

/-! # Decisions: which tokens were lately accepted or rejected -/
namespace Gateway

/-- A decision counts before its end and no longer at it. -/
structure Decision where
  accepted : Bool
  ends : Duration
  deriving DecidableEq, Repr

def Decision.isLive (now : Duration) (d : Decision) : Bool := now.nanos < d.ends.nanos

/-- Decisions by token. One that no longer counts stays until it is replaced or purged. -/
structure Decisions where
  entries : Assoc Decision
  deriving DecidableEq, Repr

namespace Decisions

def empty : Decisions := ⟨[]⟩

def size (d : Decisions) : Nat := d.entries.length

def get? (now : Duration) (token : String) (d : Decisions) : Option Bool :=
  ((Assoc.get? token d.entries).filter (·.isLive now)).map (·.accepted)

/-- Keeps a decision for a while; with no time to keep it for, nothing changes. -/
def set (now : Duration) (token : String) (accepted : Bool) (ttl : Duration) (d : Decisions) :
    Decisions :=
  if ttl.isZero then d else ⟨Assoc.set token ⟨accepted, now.add ttl⟩ d.entries⟩

def purge (now : Duration) (d : Decisions) : Decisions := ⟨d.entries.filter (·.2.isLive now)⟩

/-- The answer to a token with a live decision. Claims are read from the token again. -/
def answer (now : Duration) (token : String) (d : Decisions) : Option (Except Denial Claims) :=
  match d.get? now token with
  | some true => some (Credential.claims token)
  | some false => some (.error (.rejected "recently rejected credential"))
  | none => none

end Decisions

/-- The time left before a date in whole seconds, if there is any. -/
def remainingLifetime (m : Moment) (exp : Int) : Option Duration :=
  if exp > m.date.secs then some (.ofSecs (exp - m.date.secs).toNat) else none

end Gateway
