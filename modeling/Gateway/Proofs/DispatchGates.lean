import Gateway.Dispatch
import Mathlib.Data.List.Basic

/-! # The gates of dispatch: which requests get as far as a backend, and what is called for them -/
namespace Gateway
open Text

variable {σ : Type}

/-- A call to what dispatch depends on. -/
inductive Call
  | asked (h : Headers)
  | sent (f : Forwarded)

namespace Call

def asked? : Call → Option Headers
  | asked h => some h
  | sent _ => none

def sent? : Call → Option Forwarded
  | asked _ => none
  | sent f => some f

end Call

/-- The same services, with a record of the calls to them beside their state. -/
def Services.recorded (services : Services σ) : Services (σ × List Call) where
  authenticate := services.authenticate.map fun ask h s =>
    ((ask h s.1).1, (ask h s.1).2, s.2 ++ [.asked h])
  send f s := ((services.send f s.1).1, (services.send f s.1).2, s.2 ++ [.sent f])

/-- The route of a request: the table has it, and the path is not the gateway's own. -/
structure Reaches (ps : Patterns) (table : Snapshot) (r : Request) (route : Route) : Prop where
  unreserved : Dispatch.isReserved r.uri.path = false
  resolve : table.resolve ps r.lookup = some route

theorem Reaches.unique {ps : Patterns} {table : Snapshot} {r : Request} {route other : Route}
    (h : Reaches ps table r route) (h' : Reaches ps table r other) : other = route :=
  Option.some.inj (h'.resolve.symm.trans h.resolve)

/-- The caller may use a route, either as anyone may or by these claims. The last state is the one
that this leaves. -/
inductive Admits (services : Services σ) (route : Route) (r : Request) (s : σ) :
    Option Claims → σ → Prop
  | anyone (h : route.requiresAuth r.uri.path r.method = false) : Admits services route r s none s
  | known {ask : Headers → σ → Except Denial Claims × σ} {c : Claims} {t : σ}
      (h : route.requiresAuth r.uri.path r.method = true) (hask : services.authenticate = some ask)
      (hok : ask r.headers s = (.ok c, t)) : Admits services route r s (some c) t

/-- There is a URI and a host field for the backend. -/
structure Buildable (route : Route) (r : Request) : Prop where
  uri : ∃ uri, Forwarding.backendUri route.target (Dispatch.forwardPath route r.uri.path)
    r.uri.query = .ok uri
  place : Headers.isLegal (utf8 route.target.place) = true

namespace Dispatch
variable {ps : Patterns} {table : Snapshot} {services : Services σ} {conn : Connection}
  {r : Request} {s t : σ} {route : Route} {c : Option Claims}

theorem select_eq_some_iff :
    select ps table r.lookup = some route ↔ Reaches ps table r route := by
  rw [select]
  constructor
  · intro h
    split at h
    · cases h
    · next hres => exact ⟨eq_false_of_ne_true hres, h⟩
  · intro h
    exact (if_neg (ne_true_of_eq_false h.unreserved)).trans h.resolve

theorem select_eq_none (h : ¬∃ route, Reaches ps table r route) :
    select ps table r.lookup = none := by
  rw [Option.eq_none_iff_forall_ne_some]
  intro route hroute
  exact h ⟨route, select_eq_some_iff.mp hroute⟩

/-- What goes to a backend is the request with another URI and other header fields. -/
theorem forward_eq_ok_iff {f : Forwarded} : forward route conn c r = .ok f ↔
    Headers.isLegal (utf8 route.target.place) = true ∧ ∃ uri,
      Forwarding.backendUri route.target (forwardPath route r.uri.path) r.uri.query = .ok uri ∧
      f = ⟨{ r with uri, headers := forwardHeaders route.target.place conn c r.headers },
        route.timeout, c⟩ := by
  rw [forward]
  constructor
  · intro hf
    split at hf
    · cases hf
    · next uri huri =>
      by_cases hplace : Headers.isLegal (utf8 route.target.place) = true
      · rw [if_pos hplace] at hf
        cases hf
        exact ⟨hplace, uri, huri, rfl⟩
      · rw [if_neg hplace] at hf
        cases hf
  · rintro ⟨hplace, uri, huri, rfl⟩
    rw [huri]
    exact if_pos hplace

theorem exists_forward_iff : (∃ f, forward route conn c r = .ok f) ↔ Buildable route r := by
  simp only [forward_eq_ok_iff]
  constructor
  · rintro ⟨f, hplace, uri, huri, -⟩
    exact ⟨⟨uri, huri⟩, hplace⟩
  · rintro ⟨⟨uri, huri⟩, hplace⟩
    exact ⟨_, hplace, uri, huri, rfl⟩

/-- A request for which nothing can be built is the gateway's own failure. -/
theorem internal_of_forward_eq_error {e : Failure} (h : forward route conn c r = .error e) :
    ∃ reason, e = .internal reason := by
  rw [forward] at h
  split at h
  · cases h
    exact ⟨_, rfl⟩
  · dsimp only at h
    split at h
    · cases h
    · cases h
      exact ⟨_, rfl⟩

/-- The fields by which the caller was identified, if that had to be. -/
def askedFor (r : Request) (c : Option Claims) : List Headers := (c.map fun _ => r.headers).toList

theorem run_of_not_reaches (h : ¬∃ route, Reaches ps table r route) :
    run ps table services conn r s = ⟨.error (.noRoute r.method r.uri.path), [], [], s⟩ := by
  rw [run, select_eq_none h]

theorem run_of_admits (hr : Reaches ps table r route) (ha : Admits services route r s c t) :
    run ps table services conn r s = relay services route conn c r (askedFor r c) t := by
  rw [run, select_eq_some_iff.mpr hr]
  cases ha with
  | anyone h =>
    simp only [h]
    rfl
  | known h hask hok =>
    simp only [h, hask, hok]
    rfl

/-- A caller that is not admitted was asked about once if there is anyone to ask. -/
theorem run_of_not_admits (conn : Connection) (hr : Reaches ps table r route)
    (ha : ¬∃ c t, Admits services route r s c t) :
    route.requiresAuth r.uri.path r.method = true ∧ ∃ denial t,
      run ps table services conn r s = ⟨.error (.unauthenticated route.name denial),
        (services.authenticate.map fun _ => r.headers).toList, [], t⟩ := by
  have hreq : route.requiresAuth r.uri.path r.method = true := by
    by_contra h
    exact ha ⟨none, s, .anyone (eq_false_of_ne_true h)⟩
  refine ⟨hreq, ?_⟩
  rw [run, select_eq_some_iff.mpr hr]
  cases hask : services.authenticate with
  | none => exact ⟨.notConfigured, s, by simp [hreq]⟩
  | some ask =>
    rcases hanswer : ask r.headers s with ⟨answer, t⟩
    cases answer with
    | error e => exact ⟨e, t, by simp [hreq, hanswer]⟩
    | ok claims => exact absurd ⟨some claims, t, .known hreq hask hanswer⟩ ha

/-- Keeping a record changes nothing else, and the record agrees with what the outcome tells. -/
theorem run_recorded (ps : Patterns) (table : Snapshot) (services : Services σ) (conn : Connection)
    (r : Request) (s : σ) (log : List Call) :
    let o := run ps table services conn r s
    run ps table services.recorded conn r (s, log) = ⟨o.result, o.asked, o.sent,
      (o.state, log ++ o.asked.map .asked ++ o.sent.map .sent)⟩ := by
  have hrelay : ∀ (route : Route) (c : Option Claims) (asked : List Headers) (t : σ),
      let o := relay services route conn c r asked t
      relay services.recorded route conn c r asked (t, log ++ asked.map .asked) =
        ⟨o.result, o.asked, o.sent, (o.state, log ++ o.asked.map .asked ++ o.sent.map .sent)⟩ := by
    intro route c asked t
    dsimp only [relay]
    cases forward route conn c r with
    | error e => simp
    | ok f => simp [Services.recorded]
  dsimp only [run]
  cases hs : select ps table r.lookup with
  | none => simp
  | some route =>
    by_cases hreq : route.requiresAuth r.uri.path r.method = true
    · cases hask : services.authenticate with
      | none => simp [hreq, hask, Services.recorded]
      | some ask =>
        rcases hanswer : ask r.headers s with ⟨answer, t⟩
        cases answer with
        | error e => simp [hreq, hask, hanswer, Services.recorded]
        | ok claims =>
          have h := hrelay route (some claims) [r.headers] t
          simp only [Services.recorded, hask, hreq, hanswer, Option.map_some, if_true] at h ⊢
          exact h
    · have h := hrelay route none [] s
      simp only [hreq, List.map_nil, List.append_nil] at h ⊢
      exact h

/-- The calls that a dispatch makes, in their order. -/
def calls (ps : Patterns) (table : Snapshot) (services : Services σ) (conn : Connection)
    (r : Request) (s : σ) : List Call := (run ps table services.recorded conn r (s, [])).state.2

theorem calls_eq (ps : Patterns) (table : Snapshot) (services : Services σ) (conn : Connection)
    (r : Request) (s : σ) : calls ps table services conn r s =
      (run ps table services conn r s).asked.map .asked ++
        (run ps table services conn r s).sent.map .sent := by
  rw [calls, run_recorded, List.nil_append]

theorem filterMap_asked?_calls (ps : Patterns) (table : Snapshot) (services : Services σ)
    (conn : Connection) (r : Request) (s : σ) :
    (calls ps table services conn r s).filterMap Call.asked? =
      (run ps table services conn r s).asked := by
  rw [calls_eq, List.filterMap_append, List.filterMap_map, List.filterMap_map]
  simp [Function.comp_def, Call.asked?]

theorem filterMap_sent?_calls (ps : Patterns) (table : Snapshot) (services : Services σ)
    (conn : Connection) (r : Request) (s : σ) :
    (calls ps table services conn r s).filterMap Call.sent? =
      (run ps table services conn r s).sent := by
  rw [calls_eq, List.filterMap_append, List.filterMap_map, List.filterMap_map]
  simp [Function.comp_def, Call.sent?]

theorem mem_calls_sent_iff (f : Forwarded) :
    .sent f ∈ calls ps table services conn r s ↔ f ∈ (run ps table services conn r s).sent := by
  simp [calls_eq]

theorem relay_asked (services : Services σ) (route : Route) (conn : Connection) (c : Option Claims)
    (r : Request) (asked : List Headers) (t : σ) :
    (relay services route conn c r asked t).asked = asked := by
  rw [relay]
  cases forward route conn c r <;> rfl

/-- What passes every gate is sent once, and the answer is the backend's. -/
theorem relay_of_forward {f : Forwarded} (asked : List Headers)
    (h : forward route conn c r = .ok f) :
    relay services route conn c r asked t =
      ⟨(services.send f t).1.mapError (.proxy route.name route.target.render), asked, [f],
        (services.send f t).2⟩ := by
  rw [relay, h]

theorem relay_of_not_buildable (asked : List Headers) (h : ¬Buildable route r) :
    (relay services route conn c r asked t).response.status = 500 := by
  cases hf : forward route conn c r with
  | error e =>
    obtain ⟨reason, rfl⟩ := internal_of_forward_eq_error hf
    rw [relay, hf]
    rfl
  | ok f => exact absurd (exists_forward_iff.mp ⟨f, hf⟩) h

theorem forward_of_sent (hr : Reaches ps table r route) (ha : Admits services route r s c t)
    {f : Forwarded} (hf : f ∈ (run ps table services conn r s).sent) :
    forward route conn c r = .ok f := by
  rw [run_of_admits hr ha] at hf
  cases hg : forward route conn c r with
  | error e =>
    rw [relay, hg] at hf
    exact nomatch hf
  | ok g =>
    rw [relay_of_forward _ hg] at hf
    rw [List.mem_singleton.mp hf]

theorem mem_sent_of_forward (hr : Reaches ps table r route) (ha : Admits services route r s c t)
    {f : Forwarded} (hf : forward route conn c r = .ok f) :
    f ∈ (run ps table services conn r s).sent := by
  rw [run_of_admits hr ha, relay_of_forward _ hf]
  exact List.mem_singleton_self f

theorem run_of_sent (hr : Reaches ps table r route) (ha : Admits services route r s c t)
    {f : Forwarded} (hf : f ∈ (run ps table services conn r s).sent) :
    run ps table services conn r s =
      ⟨(services.send f t).1.mapError (.proxy route.name route.target.render), askedFor r c, [f],
        (services.send f t).2⟩ := by
  rw [run_of_admits hr ha, relay_of_forward _ (forward_of_sent hr ha hf)]

/-- The caller of a request has to be found out, and there is someone to ask. -/
def Asks (ps : Patterns) (table : Snapshot) (services : Services σ) (r : Request) : Prop :=
  ∃ route, Reaches ps table r route ∧ route.requiresAuth r.uri.path r.method = true ∧
    services.authenticate.isSome = true

/-- What the gates of dispatch let through, and what a sender is told. -/
structure Gated (ps : Patterns) (table : Snapshot) (services : Services σ) (conn : Connection)
    (r : Request) (s : σ) : Prop where
  sends_le_one : ((calls ps table services conn r s).filterMap Call.sent?).length ≤ 1
  sends_iff : (∃ f, .sent f ∈ calls ps table services conn r s) ↔
    ∃ route, Reaches ps table r route ∧ (∃ c t, Admits services route r s c t) ∧ Buildable route r
  asks_once : Asks ps table services r →
    (calls ps table services conn r s).filterMap Call.asked? = [r.headers]
  asks_only : ¬Asks ps table services r →
    (calls ps table services conn r s).filterMap Call.asked? = []
  notFound : (¬∃ route, Reaches ps table r route) →
    (run ps table services conn r s).response.status = 404
  unauthorized : ∀ route, Reaches ps table r route → (¬∃ c t, Admits services route r s c t) →
    (run ps table services conn r s).response.status = 401
  unbuildable : ∀ route, Reaches ps table r route → (∃ c t, Admits services route r s c t) →
    ¬Buildable route r → (run ps table services conn r s).response.status = 500
  failed : ∀ route c t f e, Reaches ps table r route → Admits services route r s c t →
    .sent f ∈ calls ps table services conn r s → (services.send f t).1 = .error e →
      (run ps table services conn r s).response.status = 502
  answered : ∀ route c t f answer, Reaches ps table r route → Admits services route r s c t →
    .sent f ∈ calls ps table services conn r s → (services.send f t).1 = .ok answer →
      (run ps table services conn r s).response = answer

/-- A request is sent exactly when all gates are open for it. -/
theorem exists_sent_iff (ps : Patterns) (table : Snapshot) (services : Services σ)
    (conn : Connection) (r : Request) (s : σ) :
    (∃ f, f ∈ (run ps table services conn r s).sent) ↔ ∃ route, Reaches ps table r route ∧
      (∃ c t, Admits services route r s c t) ∧ Buildable route r := by
  constructor
  · rintro ⟨f, hf⟩
    by_cases hr : ∃ route, Reaches ps table r route
    · obtain ⟨route, hr⟩ := hr
      by_cases ha : ∃ c t, Admits services route r s c t
      · obtain ⟨c, t, hct⟩ := ha
        exact ⟨route, hr, ⟨c, t, hct⟩, exists_forward_iff.mp ⟨f, forward_of_sent hr hct hf⟩⟩
      · obtain ⟨-, denial, t, hrun⟩ := run_of_not_admits conn hr ha
        rw [hrun] at hf
        exact nomatch hf
    · rw [run_of_not_reaches hr] at hf
      exact nomatch hf
  · rintro ⟨route, hr, ⟨c, t, hct⟩, hb⟩
    obtain ⟨f, hf⟩ := exists_forward_iff.mpr hb
    exact ⟨f, mem_sent_of_forward hr hct hf⟩

theorem exists_forward_of_sent {f : Forwarded} (hf : f ∈ (run ps table services conn r s).sent) :
    ∃ route c, Reaches ps table r route ∧ forward route conn c r = .ok f := by
  obtain ⟨route, hr, ⟨c, t, hct⟩, -⟩ := (exists_sent_iff ps table services conn r s).mp ⟨f, hf⟩
  exact ⟨route, c, hr, forward_of_sent hr hct hf⟩

theorem sent_length_le_one (ps : Patterns) (table : Snapshot) (services : Services σ)
    (conn : Connection) (r : Request) (s : σ) :
    (run ps table services conn r s).sent.length ≤ 1 := by
  cases hsent : (run ps table services conn r s).sent with
  | nil => exact Nat.zero_le 1
  | cons f fs =>
    have hf : f ∈ (run ps table services conn r s).sent := by
      rw [hsent]
      exact List.mem_cons_self
    obtain ⟨route, hr, ⟨c, t, hct⟩, -⟩ :=
      (exists_sent_iff ps table services conn r s).mp ⟨f, hf⟩
    rw [← hsent, run_of_sent hr hct hf]
    exact Nat.le_refl 1

theorem Asks.iff_of_reaches (services : Services σ) (hr : Reaches ps table r route) :
    Asks ps table services r ↔
      route.requiresAuth r.uri.path r.method = true ∧ services.authenticate.isSome = true := by
  constructor
  · rintro ⟨other, hother, hreq⟩
    rwa [hr.unique hother] at hreq
  · exact fun h => ⟨route, hr, h⟩

/-- The caller is asked about once, by the fields of the request, or not at all. -/
theorem run_asked (ps : Patterns) (table : Snapshot) (services : Services σ) (conn : Connection)
    (r : Request) (s : σ) :
    (Asks ps table services r → (run ps table services conn r s).asked = [r.headers]) ∧
      (¬Asks ps table services r → (run ps table services conn r s).asked = []) := by
  by_cases hr : ∃ route, Reaches ps table r route
  · obtain ⟨route, hr⟩ := hr
    rw [Asks.iff_of_reaches services hr]
    by_cases ha : ∃ c t, Admits services route r s c t
    · obtain ⟨c, t, hct⟩ := ha
      rw [run_of_admits hr hct, relay_asked]
      cases hct with
      | anyone h => simp [h, askedFor]
      | known h hask hok => simp [h, hask, askedFor]
    · obtain ⟨hreq, denial, t, hrun⟩ := run_of_not_admits conn hr ha
      rw [hrun]
      cases services.authenticate <;> simp [hreq]
  · rw [run_of_not_reaches hr]
    refine ⟨?_, fun _ => rfl⟩
    rintro ⟨route, hroute, -⟩
    exact absurd ⟨route, hroute⟩ hr

/-- Every request passes the gates in turn: a call to a backend is the last thing that happens, and
what stops a request before it decides what its sender is told. -/
theorem run_gated (ps : Patterns) (table : Snapshot) (services : Services σ) (conn : Connection)
    (r : Request) (s : σ) : Gated ps table services conn r s := by
  have hasked := run_asked ps table services conn r s
  rw [← filterMap_asked?_calls] at hasked
  refine ⟨?_, ?_, hasked.1, hasked.2, ?_, ?_, ?_, ?_, ?_⟩
  · rw [filterMap_sent?_calls]
    exact sent_length_le_one ps table services conn r s
  · simp only [mem_calls_sent_iff]
    exact exists_sent_iff ps table services conn r s
  · intro hr
    rw [run_of_not_reaches hr]
    rfl
  · intro route hr ha
    obtain ⟨-, denial, t, hrun⟩ := run_of_not_admits conn hr ha
    rw [hrun]
    rfl
  · rintro route hr ⟨c, t, hct⟩ hb
    rw [run_of_admits hr hct]
    exact relay_of_not_buildable _ hb
  · intro route c t f e hr hct hsent he
    rw [run_of_sent hr hct ((mem_calls_sent_iff f).mp hsent), he]
    rfl
  · intro route c t f answer hr hct hsent he
    rw [run_of_sent hr hct ((mem_calls_sent_iff f).mp hsent), he]
    rfl

end Dispatch
end Gateway
