import Gateway.Proofs.HeaderTexts
import Gateway.Proofs.Impersonation
import Gateway.Proofs.Resolution

/-! # The original host: what a backend is told about the host that a client asked for -/
namespace Gateway
open Text

namespace Forwarding
open Headers

/-- A field that is neither the connection's nor the caller's is only removed where the client lists
it. -/
theorem values_cleaned {n : String} (hn : n ∉ hopByHopNames ++ identityNames) (h : Headers) :
    (sanitizeIdentity (removeHopByHop h)).values n =
      if n ∈ listedNames h then [] else h.values n := by
  rw [List.mem_append, not_or] at hn
  rw [sanitizeIdentity, values_removeAll_of_not_mem hn.2, removeHopByHop]
  split_ifs with hlisted
  · exact values_removeAll (List.mem_append_left _ hlisted) h
  · exact values_removeAll_of_not_mem (by simp [hlisted, hn.1]) h

/-- The host of the host field, unless the client lists that field with its connection. -/
def keptHost? (h : Headers) : Option String :=
  if "host" ∈ listedNames h then none else h.readable? "host"

theorem readable?_cleaned_host (h : Headers) :
    (sanitizeIdentity (removeHopByHop h)).readable? "host" = keptHost? h := by
  rw [readable?, first?, values_cleaned (by decide), keptHost?, readable?, first?]
  split_ifs <;> rfl

theorem values_applyForwarding_host (h : Headers) (peer : Option Socket) (tls : Bool) :
    (applyForwarding h peer tls).values "x-forwarded-host" =
      match h.readable? "host" with
      | some host => [utf8 host]
      | none => h.values "x-forwarded-host" := by
  have hset : (setIfAny "x-forwarded-host" (h.readable? "host") h).values "x-forwarded-host" =
      match h.readable? "host" with
      | some host => [utf8 host]
      | none => h.values "x-forwarded-host" := by
    cases hhost : h.readable? "host" with
    | none => rfl
    | some host =>
      have hlegal := isLegal_of_isVisible (isVisible_of_readable? hhost)
      rw [setIfAny, Headers.set, if_pos hlegal, values_insert_self]
  rw [← hset]
  have htold : ∀ p : String, ((setIfAny "x-real-ip" (clientIp h peer)
      (setIfAny "x-forwarded-host" (h.readable? "host") h)).set "x-forwarded-proto" p).values
        "x-forwarded-host" =
      (setIfAny "x-forwarded-host" (h.readable? "host") h).values "x-forwarded-host" := by
    intro p
    rw [values_set_of_ne (by decide), values_setIfAny_of_ne (by decide)]
  cases peer with
  | none => exact htold _
  | some peer => exact (values_set_of_ne (by decide) _ _).trans (htold _)

end Forwarding

namespace Dispatch
open Forwarding Headers

/-- The backend's own place is in the host field. -/
theorem values_forwardHeaders_host (place : String) (conn : Connection) (c : Option Claims)
    (h : Headers) : (forwardHeaders place conn c h).values "host" = [utf8 place] := by
  rw [forwardHeaders_eq, values_insert_self]

/-- What a backend finds in the field for the original host. -/
def originalHosts (h : Headers) : List Bytes :=
  match keptHost? h with
  | some host => [utf8 host]
  | none => if "x-forwarded-host" ∈ listedNames h then [] else h.values "x-forwarded-host"

theorem values_forwardHeaders_forwardedHost (place : String) (conn : Connection)
    (c : Option Claims) (h : Headers) :
    (forwardHeaders place conn c h).values "x-forwarded-host" = originalHosts h := by
  rw [forwardHeaders_eq, values_insert_of_ne (by decide),
    values_setAll_of_not_mem (by rw [map_fst_callerFields]; decide), values_applyForwarding_host,
    readable?_cleaned_host, values_cleaned (by decide), originalHosts]

variable {σ : Type} {ps : Patterns} {table : Snapshot} {services : Services σ} {conn : Connection}
  {r : Request} {s : σ} {f : Forwarded}

theorem headers_of_sent (hf : f ∈ (run ps table services conn r s).sent) :
    ∃ route c, Reaches ps table r route ∧
      f.request.headers = forwardHeaders route.target.place conn c r.headers := by
  obtain ⟨route, c, hr, hforward⟩ := exists_forward_of_sent hf
  exact ⟨route, c, hr, forward_eq_ok hforward⟩

theorem values_forwardedHost_of_sent (hf : f ∈ (run ps table services conn r s).sent) :
    f.request.headers.values "x-forwarded-host" = originalHosts r.headers := by
  obtain ⟨route, c, -, hheaders⟩ := headers_of_sent hf
  rw [hheaders, values_forwardHeaders_forwardedHost]

/-- A host field that the client leaves alone is the host that routing goes by, and the one value
that the backend gets for the original host. Without it the backend gets what the client wrote. -/
theorem original_host_of_sent (hf : f ∈ (run ps table services conn r s).sent) :
    (∀ host, keptHost? r.headers = some host → r.lookup.host = some host ∧
      f.request.headers.values "x-forwarded-host" = [utf8 host]) ∧
    (keptHost? r.headers = none → f.request.headers.values "x-forwarded-host" =
      if "x-forwarded-host" ∈ listedNames r.headers then []
      else r.headers.values "x-forwarded-host") := by
  rw [values_forwardedHost_of_sent hf, originalHosts]
  refine ⟨fun host hkept => ⟨?_, by rw [hkept]⟩, fun hkept => by rw [hkept]⟩
  rw [keptHost?] at hkept
  split_ifs at hkept
  rw [Request.lookup, Request.host?, hkept, Option.some_or]

/-- A route for one host, to a port of the gateway's own machine. -/
def homeRoute : Route :=
  { Route.plain "home" ⟨some "gw", none, none, none⟩ with
    target := ⟨"http", some ⟨"", none, some (.ipv6 [0, 0, 0, 0, 0, 0, 0, 1]), some 9000⟩, "/", none,
      none⟩ }

theorem isValidated_homeRoute : homeRoute.IsValidated :=
  ⟨⟨"home", none, ⟨some "gw", none, none, []⟩, none, none, "http://[::1]:9000", false, none, 0⟩,
    rfl⟩

/-- There is nobody to ask who a caller is, and every backend answers alike. -/
def plainServices : Services Unit := ⟨none, fun _ s => (.ok ⟨200, .empty, ""⟩, s)⟩

/-- What is sent for a request when the route for the host is the only one. -/
def sentHome (r : Request) : List Forwarded :=
  (run (fun _ => none) (.build [homeRoute]) plainServices ⟨none, false⟩ r ()).sent

/-- The one route for a host gets all requests for it. -/
theorem reaches_of_host {route : Route} (hv : route.IsValidated)
    (hrule : route.rule = ⟨some "gw", none, none, none⟩) {r : Request}
    (hhost : r.lookup.host = some "gw") (hpath : isReserved r.uri.path = false) :
    Reaches (fun _ => none) (.build [route]) r route := by
  have hserves : route.Serves (fun _ => none) r.lookup := by
    constructor
    all_goals
      rw [hrule]
      rintro _ ⟨⟩
    exact hhost
  exact ⟨hpath, Snapshot.resolve_build_singleton hv hserves⟩

theorem reaches_homeRoute {r : Request} (hhost : r.lookup.host = some "gw")
    (hpath : isReserved r.uri.path = false) :
    Reaches (fun _ => none) (.build [homeRoute]) r homeRoute :=
  reaches_of_host isValidated_homeRoute rfl hhost hpath

theorem exists_sentHome {r : Request} (hr : Reaches (fun _ => none) (.build [homeRoute]) r homeRoute)
    (hb : Buildable homeRoute r) : ∃ f, f ∈ sentHome r :=
  (exists_sent_iff _ _ _ _ r ()).mpr ⟨homeRoute, hr, ⟨none, (), .anyone rfl⟩, hb⟩

/-- A request for the root with these header fields. -/
def rootRequest (authority : Option String) (fields : List (String × String)) : Request :=
  ⟨"GET", ⟨authority.map fun _ => "http", authority, "/", none⟩,
    ⟨fields.map fun p => (p.1, utf8 p.2)⟩, ""⟩

theorem exists_sentHome_rootRequest (authority : Option String) (fields : List (String × String))
    (hhost : (rootRequest authority fields).lookup.host = some "gw") :
    ∃ f, f ∈ sentHome (rootRequest authority fields) := by
  have hread : backendUri homeRoute.target "/" none =
      .ok ⟨some "http", some "[::1]:9000", "/", none⟩ := by decide +kernel
  have hplace : isLegal (utf8 homeRoute.target.place) = true := by decide +kernel
  have hpath : isReserved "/" = false := by decide +kernel
  exact exists_sentHome (reaches_homeRoute hhost hpath) ⟨⟨_, hread⟩, hplace⟩

/-- A client that forges the field and leaves its host field alone. -/
def forging : Request :=
  rootRequest none [("host", "gw"), ("connection", "x-forwarded-host"), ("x-forwarded-host", "evil")]

theorem original_host_beside_forged : ∃ f, f ∈ sentHome forging ∧
    keptHost? forging.headers = some "gw" ∧
    f.request.headers.values "x-forwarded-host" = [utf8 "gw"] := by
  have hkept : keptHost? forging.headers = some "gw" := by decide +kernel
  have hhost : forging.lookup.host = some "gw" := by decide +kernel
  obtain ⟨f, hf⟩ := exists_sentHome_rootRequest none _ hhost
  exact ⟨f, hf, hkept, ((original_host_of_sent hf).1 "gw" hkept).2⟩

/-- A client that lists its host field with its connection. -/
def hostListing : Request :=
  rootRequest none [("host", "gw"), ("connection", "host"), ("x-forwarded-host", "evil")]

/-- A client that names the host in the request's target alone. -/
def hostInTarget : Request := rootRequest (some "gw") [("x-forwarded-host", "evil")]

/-- In both cases routing goes by one host and the backend is told another one. -/
theorem original_host_forged :
    (hostListing.lookup.host = some "gw" ∧ ∃ f ∈ sentHome hostListing,
      f.request.headers.values "x-forwarded-host" = [utf8 "evil"]) ∧
    hostInTarget.lookup.host = some "gw" ∧ ∃ f ∈ sentHome hostInTarget,
      f.request.headers.values "x-forwarded-host" = [utf8 "evil"] := by
  have hlisted : hostListing.lookup.host = some "gw" := by decide +kernel
  have hnamed : hostInTarget.lookup.host = some "gw" := by decide +kernel
  obtain ⟨f, hf⟩ := exists_sentHome_rootRequest none _ hlisted
  obtain ⟨g, hg⟩ := exists_sentHome_rootRequest (some "gw") _ hnamed
  refine ⟨⟨hlisted, f, hf, ?_⟩, hnamed, g, hg, ?_⟩
  · rw [values_forwardedHost_of_sent hf]
    decide +kernel
  · rw [values_forwardedHost_of_sent hg]
    decide +kernel

end Dispatch
end Gateway
