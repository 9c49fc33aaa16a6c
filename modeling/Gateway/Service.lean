import Gateway.Dispatch

/-! # The service: the health report, and dispatch for every other path -/
namespace Gateway.Service
open Text

inductive Place
  | health
  | proxy
  | nowhere
  deriving DecidableEq, Repr

def place (path : String) : Place :=
  if path = "/health" then .health
  else if path.toList.head? = some '/' then .proxy
  else .nowhere

/-- The number of routes, and when it was counted. -/
def healthReport (table : Snapshot) (timestamp : Option String) : Json :=
  .record ([("routes", .ofNat table.size), ("status", .text "healthy")] ++
    (timestamp.map fun t => ("timestamp", Json.text t)).toList)

def health (table : Snapshot) (timestamp : Option String) (method : String) : Response :=
  if method = "GET" || method = "HEAD" then
    ⟨200, Failure.jsonHeaders, (healthReport table timestamp).render⟩
  else ⟨405, ⟨[("allow", utf8 "GET,HEAD")]⟩, ""⟩

/-- A response to HEAD has no body, nor has one that agrees to CONNECT. -/
def withoutBody (method : String) (r : Response) : Response :=
  if method = "HEAD" || (method = "CONNECT" && 200 ≤ r.status && r.status < 300) then
    { r with body := "" }
  else r

variable {σ : Type}

/-- Answers a request. -/
def answer (ps : Patterns) (table : Snapshot) (services : Services σ) (peer : Option Socket)
    (timestamp : Option String) (r : Request) (s : σ) : Response × List Forwarded × σ :=
  match place r.uri.path with
  | .health => (withoutBody r.method (health table timestamp r.method), [], s)
  | .nowhere => (⟨404, .empty, ""⟩, [], s)
  | .proxy =>
    let o := Dispatch.run ps table services ⟨peer, false⟩ r s
    (withoutBody r.method o.response, o.sent, o.state)

end Gateway.Service
