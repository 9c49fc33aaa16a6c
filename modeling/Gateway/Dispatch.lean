import Gateway.Failure
import Gateway.Forwarding
import Gateway.Snapshot

/-! # Dispatch: from a request to the response of a backend -/
namespace Gateway
open Text

/-- What is known of a connection besides the request that comes over it. -/
structure Connection where
  peer : Option Socket
  tls : Bool
  deriving DecidableEq, Repr

/-- A request as it goes to a backend. The claims are those of the caller, if there was a need to
know the caller. -/
structure Forwarded where
  request : Request
  timeout : Duration
  claims : Option Claims
  deriving DecidableEq, Repr

/-- What dispatch calls: whoever tells who a caller is, if anyone does, and the backends. Both may
have a state. -/
structure Services (σ : Type) where
  authenticate : Option (Headers → σ → Except Denial Claims × σ)
  send : Forwarded → σ → Except SendFault Response × σ

/-- How a dispatch ends, and what it called on the way. -/
structure Outcome (σ : Type) where
  result : Except Failure Response
  /-- The header fields that the caller was identified by, for each time this was asked. -/
  asked : List Headers
  sent : List Forwarded
  state : σ

namespace Dispatch

/-- Paths below which the gateway speaks for itself. -/
def reservedRoots : List String := ["/health", "/internal"]

/-- A root itself is reserved, and what follows a slash after it. -/
def isBelow (root path : List Char) : Bool :=
  root.isPrefixOf path && ((path.drop root.length).isEmpty || path[root.length]? == some '/')

def isReserved (path : String) : Bool := reservedRoots.any fun r => isBelow r.toList path.toList

/-- The route for a request, reserved paths having none. -/
def select (ps : Patterns) (table : Snapshot) (l : Lookup) : Option Route :=
  if isReserved l.path then none else table.resolve ps l

/-- The path that the backend gets to see. -/
def forwardPath (route : Route) (path : String) : String :=
  match route.pathPrefix with
  | some p => if route.stripPrefix then Forwarding.stripPrefix path p else path
  | none => path

/-- The header fields for the backend, whose place goes into the host field. -/
def forwardHeaders (place : String) (conn : Connection) (claims : Option Claims) (h : Headers) :
    Headers :=
  let cleaned := Forwarding.sanitizeIdentity (Forwarding.removeHopByHop h)
  let told := Forwarding.applyForwarding cleaned conn.peer conn.tls
  let identified := match claims with
    | some c => Forwarding.injectIdentity c told
    | none => told
  identified.insert "host" (utf8 place)

/-- The request for the backend of a route. -/
def forward (route : Route) (conn : Connection) (claims : Option Claims) (r : Request) :
    Except Failure Forwarded :=
  match Forwarding.backendUri route.target (forwardPath route r.uri.path) r.uri.query with
  | .error e => .error (.internal ("invalid upstream uri: " ++ e.message))
  | .ok uri =>
    let place := route.target.place
    if Headers.isLegal (utf8 place) then
      .ok ⟨{ r with uri, headers := forwardHeaders place conn claims r.headers }, route.timeout,
        claims⟩
    else .error (.internal "invalid target authority: failed to parse header value")

variable {σ : Type}

/-- Sends the request of an admitted caller on. -/
def relay (services : Services σ) (route : Route) (conn : Connection) (claims : Option Claims)
    (r : Request) (asked : List Headers) (s : σ) : Outcome σ :=
  match forward route conn claims r with
  | .error e => ⟨.error e, asked, [], s⟩
  | .ok f =>
    let (answer, s) := services.send f s
    ⟨answer.mapError (.proxy route.name route.target.render), asked, [f], s⟩

/-- Finds the route, finds out who the caller is where the route asks for it, and sends the request
on to the backend. -/
def run (ps : Patterns) (table : Snapshot) (services : Services σ) (conn : Connection) (r : Request)
    (s : σ) : Outcome σ :=
  match select ps table r.lookup with
  | none => ⟨.error (.noRoute r.method r.uri.path), [], [], s⟩
  | some route =>
    if route.requiresAuth r.uri.path r.method then
      match services.authenticate with
      | none => ⟨.error (.unauthenticated route.name .notConfigured), [], [], s⟩
      | some authenticate =>
        match authenticate r.headers s with
        | (.error e, s) => ⟨.error (.unauthenticated route.name e), [r.headers], [], s⟩
        | (.ok claims, s) => relay services route conn (some claims) r [r.headers] s
    else relay services route conn none r [] s

end Dispatch

/-- The response to a request, failures included. -/
def Outcome.response {σ : Type} (o : Outcome σ) : Response :=
  match o.result with
  | .ok response => response
  | .error e => e.response

end Gateway
