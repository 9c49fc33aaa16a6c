import Gateway.Failure

/-! # Calls to backends -/
namespace Gateway

/-- What comes back from the network: a failure, or a response after some time. -/
inductive Wire
  | failed (reason : String)
  | response (delay : Duration) (response : Response)
  deriving DecidableEq, Repr

/-- The pools of connections, one for each timeout seen. -/
abbrev Pools := List Duration

namespace Pools

def use (timeout : Duration) (ps : Pools) : Pools := if ps.contains timeout then ps else timeout :: ps

end Pools

namespace Backend

/-- The response that a request gets within its time. How its body was framed does not matter
beyond. -/
def receive (r : Request) (timeout : Duration) : Wire → Except SendFault Response
  | .failed reason =>
    .error (.connection ("Request to " ++ r.method ++ " " ++ r.uri.render ++ " failed: " ++ reason))
  | .response delay response =>
    if delay.nanos ≤ timeout.nanos then
      .ok { response with headers := response.headers.remove "transfer-encoding" }
    else .error (.timeout timeout)

/-- Sends a request, if its URI says where to. -/
def send (network : Request → Wire) (r : Request) (timeout : Duration) (ps : Pools) :
    Except SendFault Response × Pools :=
  if r.uri.host?.isNone then (.error (.invalidRequest "Outgoing URI has no host"), ps)
  else (receive r timeout (network r), ps.use timeout)

end Backend
end Gateway
