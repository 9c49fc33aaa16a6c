import Gateway.Auth.Authority
import Gateway.Auth.Keyed
import Gateway.Proofs.DispatchGates
import Gateway.Proofs.HeaderFields

/-! # Impersonation: what a client writes into the identity fields reaches no backend -/
namespace Gateway
open Text

namespace Forwarding
open Headers

/-- The fields by which a backend is told who the caller is. -/
def callerNames : List String := ["user-id", "user-uuid", "profile-ids", "permissions"]

/-- What the claims say in each of the fields. Without claims there is nothing to say. -/
def callerFields (c : Option Claims) : List (String × Option String) :=
  [("user-id", c.bind Claims.subject),
    ("user-uuid", c.bind fun c => c.userUuid.filter (!·.isEmpty)),
    ("profile-ids", c.bind fun c => commaJoined c.profileIds),
    ("permissions", c.bind fun c => commaJoined c.permissions)]

theorem map_fst_callerFields (c : Option Claims) :
    (callerFields c).map Prod.fst = callerNames := rfl

theorem callerNames_subset : callerNames ⊆ identityNames := List.subset_cons_self _ _

theorem values_sanitizeIdentity {n : String} (hn : n ∈ identityNames) (h : Headers) :
    (sanitizeIdentity h).values n = [] := values_removeAll hn h

/-- Cleaned of what may not go on, headers that agree beyond the identity fields are the same. -/
theorem sanitizeIdentity_removeHopByHop_eq {g h : Headers} (hgh : AgreeBeyond identityNames g h) :
    sanitizeIdentity (removeHopByHop g) = sanitizeIdentity (removeHopByHop h) := by
  have hlisted : listedNames g = listedNames h := by
    rw [listedNames, listedNames, hgh.values_eq (by decide)]
  rw [removeHopByHop, removeHopByHop, hlisted]
  exact removeAll_removeAll_eq hgh _

end Forwarding

namespace Dispatch
open Forwarding Headers

/-- With and without claims, the fields for the backend are the cleaned ones, what is told about the
client, what the claims say, and the host. -/
theorem forwardHeaders_eq (place : String) (conn : Connection) (c : Option Claims) (h : Headers) :
    forwardHeaders place conn c h =
      (setAll (callerFields c) (applyForwarding (sanitizeIdentity (removeHopByHop h)) conn.peer
        conn.tls)).insert "host" (utf8 place) := by
  cases c <;> rfl

theorem forwardHeaders_congr {g h : Headers} (hgh : AgreeBeyond identityNames g h) (place : String)
    (conn : Connection) (c : Option Claims) :
    forwardHeaders place conn c g = forwardHeaders place conn c h := by
  rw [forwardHeaders_eq, forwardHeaders_eq, sanitizeIdentity_removeHopByHop_eq hgh]

/-- The identity fields that a backend sees are those that the claims make, and no credential is
among them. -/
theorem values_forwardHeaders (place : String) (conn : Connection) (c : Option Claims)
    (h : Headers) : (forwardHeaders place conn c h).values "authorization" = [] ∧
      ∀ p ∈ callerFields c, (forwardHeaders place conn c h).values p.1 = told p.2 := by
  have hother : ∀ n ∈ identityNames, n ≠ "host" ∧ n ∉ forwardingNames := by decide
  have hnone : ∀ n ∈ identityNames, (applyForwarding (sanitizeIdentity (removeHopByHop h)) conn.peer
      conn.tls).values n = [] := by
    intro n hn
    rw [values_applyForwarding_of_not_mem (hother n hn).2, values_sanitizeIdentity hn]
  have hcaller : ∀ p ∈ callerFields c, p.1 ∈ identityNames := by
    intro p hp
    have hname : p.1 ∈ (callerFields c).map Prod.fst := List.mem_map_of_mem hp
    exact callerNames_subset hname
  rw [forwardHeaders_eq]
  constructor
  · rw [values_insert_of_ne (by decide), values_setAll_of_not_mem, hnone _ (by decide)]
    rw [map_fst_callerFields]
    decide
  · intro p hp
    rw [values_insert_of_ne (hother p.1 (hcaller p hp)).1]
    refine values_setAll ?_ (fun q hq => hnone q.1 (hcaller q hq)) p hp
    rw [map_fst_callerFields]
    decide

end Dispatch

/-- A strategy that reads nothing of the headers but the token. -/
def ReadsToken {σ : Type} (ask : Headers → σ → Except Denial Claims × σ) : Prop :=
  ∀ g h s, Credential.ofHeaders g = Credential.ofHeaders h → ask g s = ask h s

theorem Remote.readsToken (r : Remote) (authority : String → Reply) (m : Moment) :
    ReadsToken fun h d => ((r.authenticate authority m h d).result,
      (r.authenticate authority m h d).decisions) := by
  intro g h d hgh
  have hopening : opening m g d = opening m h d := by rw [opening, opening, hgh]
  simp only [authenticate, hopening]

theorem Keyed.readsToken (k : Keyed) (m : Moment) :
    ReadsToken fun h d => k.authenticate m h d := by
  intro g h d hgh
  simp only [authenticate, hgh]

/-- Two requests that differ in nothing but the fields by which a client could pass for someone
else. A credential counts among these where nobody is asked about it. -/
structure SameButCaller (ps : Patterns) (table : Snapshot) (r r' : Request) : Prop where
  method : r'.method = r.method
  uri : r'.uri = r.uri
  body : r'.body = r.body
  headers : Headers.AgreeBeyond Forwarding.callerNames r.headers r'.headers ∨
    Headers.AgreeBeyond Forwarding.identityNames r.headers r'.headers ∧
      ∃ route, Reaches ps table r route ∧ route.requiresAuth r.uri.path r.method = false

namespace SameButCaller
variable {ps : Patterns} {table : Snapshot} {r r' : Request}

theorem agreeBeyond (h : SameButCaller ps table r r') :
    Headers.AgreeBeyond Forwarding.identityNames r.headers r'.headers := by
  rcases h.headers with hcaller | ⟨hidentity, -⟩
  · exact hcaller.mono Forwarding.callerNames_subset
  · exact hidentity

theorem lookup_eq (h : SameButCaller ps table r r') : r'.lookup = r.lookup := by
  have hhost : r'.headers.readable? "host" = r.headers.readable? "host" :=
    (h.agreeBeyond.readable?_eq (by decide)).symm
  rw [Request.lookup, Request.lookup, Request.host?, Request.host?, hhost, h.uri, h.method]

/-- Where somebody is asked about the credential, it is the same one. -/
theorem ofHeaders_eq (h : SameButCaller ps table r r') {route : Route}
    (hr : Reaches ps table r route) (hreq : route.requiresAuth r.uri.path r.method = true) :
    Credential.ofHeaders r'.headers = Credential.ofHeaders r.headers := by
  rcases h.headers with hcaller | ⟨-, other, hother, hpublic⟩
  · rw [Credential.ofHeaders, Credential.ofHeaders, Headers.first?, Headers.first?,
      hcaller.values_eq (by decide)]
  · have he : other = route := Option.some.inj (hother.resolve.symm.trans hr.resolve)
    rw [he, hreq] at hpublic
    cases hpublic

theorem forward_eq (h : SameButCaller ps table r r') (route : Route) (conn : Connection)
    (c : Option Claims) :
    Dispatch.forward route conn c r' = Dispatch.forward route conn c r := by
  have hheaders : ∀ place, Dispatch.forwardHeaders place conn c r'.headers =
      Dispatch.forwardHeaders place conn c r.headers := fun place =>
    (Dispatch.forwardHeaders_congr h.agreeBeyond place conn c).symm
  simp only [Dispatch.forward, h.uri, h.method, h.body, hheaders]

theorem relay_eq {σ : Type} (h : SameButCaller ps table r r') (services : Services σ)
    (route : Route) (conn : Connection) (c : Option Claims) (asked asked' : List Headers) (s : σ) :
    Dispatch.relay services route conn c r' asked' s =
      { Dispatch.relay services route conn c r asked s with asked := asked' } := by
  rw [Dispatch.relay, Dispatch.relay, h.forward_eq]
  cases Dispatch.forward route conn c r <;> rfl

end SameButCaller

/-- Setting one of the fields to anything makes such a request. -/
theorem SameButCaller.of_insert (ps : Patterns) (table : Snapshot) (r : Request) {n : String}
    (hn : n ∈ Forwarding.callerNames) (v : Bytes) :
    SameButCaller ps table r { r with headers := r.headers.insert n v } :=
  ⟨rfl, rfl, rfl, Or.inl (Headers.agreeBeyond_insert hn v r.headers)⟩

namespace Dispatch
open Forwarding Headers

variable {σ : Type} {services : Services σ} {ps : Patterns} {table : Snapshot} {r r' : Request}

/-- Two requests that differ in the caller's fields alone have one outcome, but for the fields that
the strategy was shown. -/
theorem run_eq_of_sameButCaller
    (hread : ∀ ask, services.authenticate = some ask → ReadsToken ask)
    (h : SameButCaller ps table r r') (conn : Connection) (s : σ) :
    run ps table services conn r' s =
      { run ps table services conn r s with
        asked := (run ps table services conn r s).asked.map fun _ => r'.headers } := by
  cases hs : select ps table r.lookup with
  | none => simp only [run, h.lookup_eq, hs, h.uri, h.method, List.map_nil]
  | some route =>
    by_cases hreq : route.requiresAuth r.uri.path r.method = true
    · cases hask : services.authenticate with
      | none => simp only [run, h.lookup_eq, hs, h.uri, h.method, hreq, hask, if_true, List.map_nil]
      | some ask =>
        have hsame : ask r'.headers s = ask r.headers s :=
          hread ask hask _ _ s (h.ofHeaders_eq (select_eq_some_iff.mp hs) hreq)
        simp only [run, h.lookup_eq, hs, h.uri, h.method, hreq, hask, hsame, if_true]
        rcases ask r.headers s with ⟨answer, t⟩
        cases answer with
        | error e => rfl
        | ok c =>
          rw [relay_asked]
          exact h.relay_eq services route conn (some c) [r.headers] [r'.headers] t
    · simp only [run, h.lookup_eq, hs, h.uri, h.method, hreq, Bool.false_eq_true, if_false]
      rw [relay_asked]
      exact h.relay_eq services route conn none [] [] s

theorem forward_eq_ok {route : Route} {conn : Connection} {c : Option Claims} {f : Forwarded}
    (hf : forward route conn c r = .ok f) :
    f.request.headers = forwardHeaders route.target.place conn c r.headers := by
  obtain ⟨-, uri, -, rfl⟩ := forward_eq_ok_iff.mp hf
  rfl

/-- What a client writes into the identity fields, or lists as belonging to its connection, changes
neither the outcome nor anything that a backend sees. The identity fields that a backend does see
are the claims of a caller whom the strategy has let in. -/
theorem run_not_impersonable (ps : Patterns) (table : Snapshot) (services : Services σ)
    (conn : Connection) :
    ((∀ ask, services.authenticate = some ask → ReadsToken ask) →
      ∀ r r' s, SameButCaller ps table r r' →
        (run ps table services conn r' s).result = (run ps table services conn r s).result ∧
        (run ps table services conn r' s).sent = (run ps table services conn r s).sent ∧
        (run ps table services conn r' s).state = (run ps table services conn r s).state ∧
        (run ps table services conn r' s).asked.length =
          (run ps table services conn r s).asked.length) ∧
    ∀ r s, ∀ f ∈ (run ps table services conn r s).sent,
      f.request.headers.values "authorization" = [] ∧
        ∃ route c t, Reaches ps table r route ∧ Admits services route r s c t ∧
          (run ps table services conn r s).asked = askedFor r c ∧
          ∀ p ∈ callerFields c, f.request.headers.values p.1 = told p.2 := by
  constructor
  · intro hread r r' s h
    rw [run_eq_of_sameButCaller hread h]
    exact ⟨rfl, rfl, rfl, List.length_map _⟩
  · intro r s f hf
    obtain ⟨route, hr, ⟨c, t, hct⟩, -⟩ :=
      (exists_sent_iff ps table services conn r s).mp ⟨f, hf⟩
    have hheaders := forward_eq_ok (forward_of_sent hr hct hf)
    obtain ⟨hcredential, hfields⟩ :=
      values_forwardHeaders route.target.place conn c r.headers
    rw [hheaders]
    refine ⟨hcredential, route, c, t, hr, hct, ?_, hfields⟩
    rw [run_of_admits hr hct, relay_asked]

end Dispatch
end Gateway
