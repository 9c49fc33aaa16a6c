import Gateway.Duration

/-! # Stopping the gateway -/
namespace Gateway

/-- The time that running requests have to end, and whether the gateway is to stop. Every task that
waits for the stop ends with it. -/
structure Shutdown where
  drainTimeout : Duration
  initiated : Bool
  deriving DecidableEq, Repr

namespace Shutdown

def ready (drainTimeout : Duration) : Shutdown := ⟨drainTimeout, false⟩

/-- Stopping a second time changes nothing. -/
def trigger (s : Shutdown) : Shutdown := { s with initiated := true }

/-- Whether work that takes some time, or never ends, ends in time. -/
def drains (s : Shutdown) : Option Duration → Bool
  | some work => work.nanos ≤ s.drainTimeout.nanos
  | none => false

end Shutdown
end Gateway
