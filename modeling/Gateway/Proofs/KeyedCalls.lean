import Gateway.Auth.Keyed
import Gateway.Proofs.DecisionEntries
import Gateway.Proofs.Timelines
import Mathlib.Data.List.Induction

/-! # Calls between fetches of the secret: which secret stands behind each answer -/
namespace Gateway.Keyed

/-- How a call can end, by what it finds in the cache, in the token and in the secret in force. -/
inductive Settles (k : Keyed) (m : Moment) (h : Headers) (d : Decisions) :
    Except Denial Claims → Decisions → Prop
  | unreadable {e : Denial} (hh : Credential.ofHeaders h = .error e) :
    Settles k m h d (.error e) d
  | accepted {token : String} (hh : Credential.ofHeaders h = .ok token)
      (hd : d.get? m.steady token = some true) : Settles k m h d (Credential.claims token) d
  | rejected {token : String} (hh : Credential.ofHeaders h = .ok token)
      (hd : d.get? m.steady token = some false) :
    Settles k m h d (.error (.rejected "recently rejected credential")) d
  | keyless {token : String} (hh : Credential.ofHeaders h = .ok token)
      (hd : d.get? m.steady token = none) (hkey : k.key = none) :
    Settles k m h d (.error (.keyUnavailable "no signing key loaded")) d
  | passing {token key : String} {claims : Claims} (hh : Credential.ofHeaders h = .ok token)
      (hd : d.get? m.steady token = none) (hkey : k.key = some key)
      (hok : Signed.decode key token m.date.secs = .ok claims)
      (hlife : claims.exp.bind (remainingLifetime m) = none) : Settles k m h d (.ok claims) d
  | lasting {token key : String} {claims : Claims} {exp : Int} {ttl : Duration}
      (hh : Credential.ofHeaders h = .ok token) (hd : d.get? m.steady token = none)
      (hkey : k.key = some key) (hok : Signed.decode key token m.date.secs = .ok claims)
      (hexp : claims.exp = some exp) (hlife : remainingLifetime m exp = some ttl) :
    Settles k m h d (.ok claims) (d.set m.steady token true ttl)
  | forged {token key : String} (hh : Credential.ofHeaders h = .ok token)
      (hd : d.get? m.steady token = none) (hkey : k.key = some key)
      (hbad : Signed.decode key token m.date.secs = .error .signature) :
    Settles k m h d (.error (.rejected (Signed.Fault.message .signature)))
      (d.set m.steady token false k.negativeTtl)
  | faulty {token key : String} {fault : Signed.Fault} (hh : Credential.ofHeaders h = .ok token)
      (hd : d.get? m.steady token = none) (hkey : k.key = some key)
      (hbad : Signed.decode key token m.date.secs = .error fault) (hfault : fault ≠ .signature) :
    Settles k m h d (.error fault.denial) d

theorem settles (k : Keyed) (m : Moment) (h : Headers) (d : Decisions) :
    Settles k m h d (k.authenticate m h d).1 (k.authenticate m h d).2 := by
  rw [authenticate]
  cases hh : Credential.ofHeaders h with
  | error e => exact .unreadable hh
  | ok token =>
    dsimp only
    rw [authenticateToken, Decisions.answer]
    cases hd : d.get? m.steady token with
    | some accepted =>
      cases accepted with
      | true => exact .accepted hh hd
      | false => exact .rejected hh hd
    | none =>
      dsimp only
      rw [verify]
      cases hkey : k.key with
      | none => exact .keyless hh hd hkey
      | some key =>
        dsimp only
        cases hdecode : Signed.decode key token m.date.secs with
        | ok claims =>
          dsimp only [remember]
          cases hlife : claims.exp.bind (remainingLifetime m) with
          | none => exact .passing hh hd hkey hdecode hlife
          | some ttl =>
            obtain ⟨exp, hexp, hlife⟩ := Option.bind_eq_some_iff.mp hlife
            exact .lasting hh hd hkey hdecode hexp hlife
        | error fault =>
          cases fault with
          | signature => exact .forged hh hd hkey hdecode
          | _ => exact .faulty hh hd hkey hdecode (fun hfault => nomatch hfault)

/-- A call that has ended: the secret that was in force, what it found in the cache, and the cache
before and after it. -/
structure Call where
  headers : Headers
  time : Moment
  key : Option String
  known : Option Bool
  result : Except Denial Claims
  before : Decisions
  after : Decisions

/-- A strategy with its cache, and the calls to it so far. -/
structure State where
  now : Moment
  keyed : Keyed
  decisions : Decisions
  past : List Call

inductive Event
  | clock (t : Tick)
  | purge
  /-- A fetch of the secret has come to an end. -/
  | refresh (fetched : Except Denial String)
  | call (h : Headers)

/-- The secret that an event brings. A fetch that fails or brings nothing does not count. -/
def Event.secret? : Event → Option String
  | .refresh (.ok secret) => if secret.isEmpty then none else some secret
  | _ => none

def State.call (h : Headers) (s : State) : State :=
  let (result, after) := s.keyed.authenticate s.now h s.decisions
  { s with
    decisions := after
    past := s.past ++ [⟨h, s.now, s.keyed.key, s.decisions.known s.now.steady h, result,
      s.decisions, after⟩] }

def step (s : State) : Event → State
  | .clock t => { s with now := s.now.tick t }
  | .purge => { s with decisions := s.decisions.purge s.now.steady }
  | .refresh fetched => { s with keyed := (s.keyed.refresh fetched).2 }
  | .call h => s.call h

/-- The state after some events, from an empty cache and no secret at a moment. -/
def after (negativeTtl : Duration) (m : Moment) (es : List Event) : State :=
  es.foldl step ⟨m, ⟨none, negativeTtl⟩, .empty, []⟩

theorem after_concat (negativeTtl : Duration) (m : Moment) (es : List Event) (e : Event) :
    after negativeTtl m (es ++ [e]) = step (after negativeTtl m es) e :=
  List.foldl_concat ..

/-- A secret is replaced only by another one. -/
theorem key_step (s : State) (e : Event) : (step s e).keyed.key = e.secret?.or s.keyed.key := by
  cases e with
  | clock t => rfl
  | purge => rfl
  | call h => rfl
  | refresh fetched =>
    cases fetched with
    | error e => rfl
    | ok secret =>
      by_cases hempty : secret.isEmpty = true <;> simp [step, refresh, Event.secret?, hempty]

theorem negativeTtl_step (s : State) (e : Event) :
    (step s e).keyed.negativeTtl = s.keyed.negativeTtl := by
  cases e with
  | clock t => rfl
  | purge => rfl
  | call h => rfl
  | refresh fetched =>
    cases fetched with
    | error e => rfl
    | ok secret => by_cases hempty : secret.isEmpty = true <;> simp [step, refresh, hempty]

/-- The secret in force is the last one that was fetched. -/
theorem key_after (negativeTtl : Duration) (m : Moment) (es : List Event) :
    (after negativeTtl m es).keyed.key = (es.filterMap Event.secret?).getLast? := by
  induction es using List.reverseRecOn with
  | nil => rfl
  | append_singleton es e ih =>
    rw [after_concat, key_step, ih, List.filterMap_append, List.getLast?_append]
    cases he : e.secret? <;> simp [he]

theorem step_refresh_of_secret?_eq_none (s : State) {fetched : Except Denial String}
    (h : Event.secret? (.refresh fetched) = none) : step s (.refresh fetched) = s := by
  cases fetched with
  | error e => rfl
  | ok secret =>
    by_cases hempty : secret.isEmpty = true
    · simp [step, refresh, hempty]
    · simp [Event.secret?, hempty] at h

namespace Call

/-- The token of this call was good under the secret in force, and the acceptance is kept for the
lifetime of the token. -/
structure Accepted (c : Call) (token : String) (ttl : Duration) : Prop where
  carries : Credential.ofHeaders c.headers = .ok token
  decoded : ∃ key claims exp, c.key = some key ∧
    Signed.decode key token c.time.date.secs = .ok claims ∧ claims.exp = some exp ∧
      remainingLifetime c.time exp = some ttl
  stored : c.after = c.before.set c.time.steady token true ttl

/-- The signature in the token of this call was not made with the secret in force, and the rejection
is kept. -/
structure Forged (negativeTtl : Duration) (c : Call) (token : String) : Prop where
  carries : Credential.ofHeaders c.headers = .ok token
  refused : ∃ key, c.key = some key ∧
    Signed.decode key token c.time.date.secs = .error .signature
  stored : c.after = c.before.set c.time.steady token false negativeTtl

/-- A call left this entry in the cache. -/
def Backs (negativeTtl : Duration) (token : String) (e : Decision) (c : Call) : Prop :=
  (∃ ttl, c.Accepted token ttl ∧ e = ⟨true, c.time.steady.add ttl⟩) ∨
    c.Forged negativeTtl token ∧ e = ⟨false, c.time.steady.add negativeTtl⟩

/-- What justifies a call, by the calls before it. -/
structure Justified (negativeTtl : Duration) (earlier : List Call) (c : Call) : Prop where
  /-- Claims are given for a token that is good under the secret in force, or was so in an earlier
  call whose acceptance the cache still has. -/
  accepted : ∀ claims, c.result = .ok claims → ∃ token,
    Credential.ofHeaders c.headers = .ok token ∧
      ((∃ key, c.key = some key ∧ Signed.decode key token c.time.date.secs = .ok claims) ∨
        c.known = some true ∧ ∃ e ∈ earlier, ∃ ttl, e.Accepted token ttl ∧
          Assoc.get? token c.before.entries = some ⟨true, e.time.steady.add ttl⟩ ∧
          c.time.steady.nanos < e.time.steady.nanos + ttl.nanos)
  /-- Only an acceptance and a wrong signature are kept. -/
  stores : c.after = c.before ∨ (∃ token ttl, c.Accepted token ttl) ∨
    ∃ token, c.Forged negativeTtl token
  /-- Without a secret nobody is let in and nothing is kept. -/
  keyless : c.key = none → (∀ claims, c.result ≠ .ok claims) ∧ c.after = c.before

theorem Justified.of_error {negativeTtl : Duration} {earlier : List Call} {c : Call} {e : Denial}
    (hresult : c.result = .error e) (hafter : c.after = c.before) :
    c.Justified negativeTtl earlier := by
  have hok : ∀ claims, c.result ≠ .ok claims := by
    intro claims hclaims
    rw [hresult] at hclaims
    cases hclaims
  exact ⟨fun claims hclaims => absurd hclaims (hok claims), Or.inl hafter, fun _ => ⟨hok, hafter⟩⟩

end Call

variable {negativeTtl : Duration} {s : State}

/-- What holds of a strategy, its cache and its calls at all times. -/
structure State.Sound (negativeTtl : Duration) (s : State) : Prop where
  ttl_eq : s.keyed.negativeTtl = negativeTtl
  backed : s.decisions.Backed fun token e => ∃ c ∈ s.past, c.Backs negativeTtl token e
  keyless : s.keyed.key = none → s.decisions = .empty ∧ ∀ c ∈ s.past, c.key = none
  justified : EachAfter (Call.Justified negativeTtl) s.past

namespace State.Sound

theorem start (negativeTtl : Duration) (m : Moment) :
    State.Sound negativeTtl ⟨m, ⟨none, negativeTtl⟩, .empty, []⟩ where
  ttl_eq := rfl
  backed := Decisions.backed_empty _
  keyless := fun _ => ⟨rfl, fun _ hc => nomatch hc⟩
  justified := EachAfter.nil _

/-- Before there is a secret no decision is known. -/
theorem get?_eq_none (h : s.Sound negativeTtl) (hkey : s.keyed.key = none) (now : Duration)
    (token : String) : s.decisions.get? now token = none := by
  rw [(h.keyless hkey).1]
  rfl

/-- Any end of a call is justified by the calls before it and keeps the cache backed. -/
theorem settles (h : s.Sound negativeTtl) {hs : Headers} {result : Except Denial Claims}
    {after : Decisions} (hcall : Settles s.keyed s.now hs s.decisions result after) :
    let c : Call := ⟨hs, s.now, s.keyed.key, s.decisions.known s.now.steady hs, result,
      s.decisions, after⟩
    c.Justified negativeTtl s.past ∧
      after.Backed fun token e => ∃ c' ∈ s.past ++ [c], c'.Backs negativeTtl token e := by
  intro c
  have hold := h.backed.concat c
  have hself : c ∈ s.past ++ [c] := List.mem_append_right _ (List.mem_singleton_self c)
  cases hcall with
  | unreadable hh => exact ⟨.of_error rfl rfl, hold⟩
  | rejected hh hd => exact ⟨.of_error rfl rfl, hold⟩
  | keyless hh hd hkey => exact ⟨.of_error rfl rfl, hold⟩
  | faulty hh hd hkey hbad hfault => exact ⟨.of_error rfl rfl, hold⟩
  | @accepted token hh hd =>
    refine ⟨⟨?_, Or.inl rfl, fun hkey => ?_⟩, hold⟩
    · intro claims _
      obtain ⟨ends, hget, hlive, e, he, hbacks⟩ := h.backed.exists_of_get? hd
      rcases hbacks with ⟨ttl, hacc, hentry⟩ | ⟨-, hentry⟩
      · cases hentry
        refine ⟨token, hh, Or.inr ⟨?_, e, he, ttl, hacc, hget, hlive⟩⟩
        exact (Decisions.known_of_carries hh).trans hd
      · cases hentry
    · rw [h.get?_eq_none hkey] at hd
      cases hd
  | @passing token key claims hh hd hkey hok hlife =>
    refine ⟨⟨?_, Or.inl rfl, fun hnone => ?_⟩, hold⟩
    · intro claims' hclaims
      cases hclaims
      exact ⟨token, hh, Or.inl ⟨key, hkey, hok⟩⟩
    · exact absurd (hkey.symm.trans hnone) (Option.some_ne_none key)
  | @lasting token key claims exp ttl hh hd hkey hok hexp hlife =>
    have hacc : c.Accepted token ttl := ⟨hh, ⟨key, claims, exp, hkey, hok, hexp, hlife⟩, rfl⟩
    refine ⟨⟨?_, Or.inr (Or.inl ⟨token, ttl, hacc⟩), fun hnone => ?_⟩,
      hold.set ⟨c, hself, Or.inl ⟨ttl, hacc, rfl⟩⟩⟩
    · intro claims' hclaims
      cases hclaims
      exact ⟨token, hh, Or.inl ⟨key, hkey, hok⟩⟩
    · exact absurd (hkey.symm.trans hnone) (Option.some_ne_none key)
  | @forged token key hh hd hkey hbad =>
    have hforged : c.Forged negativeTtl token :=
      ⟨hh, ⟨key, hkey, hbad⟩, by rw [← h.ttl_eq]⟩
    have hbacks : ∃ c' ∈ s.past ++ [c],
        c'.Backs negativeTtl token ⟨false, s.now.steady.add negativeTtl⟩ :=
      ⟨c, hself, Or.inr ⟨hforged, rfl⟩⟩
    rw [h.ttl_eq]
    refine ⟨⟨(fun _ hok => nomatch hok), Or.inr (Or.inr ⟨token, hforged⟩), fun hnone => ?_⟩,
      hold.set hbacks⟩
    exact absurd (hkey.symm.trans hnone) (Option.some_ne_none key)

theorem call (h : s.Sound negativeTtl) (hs : Headers) : (s.call hs).Sound negativeTtl := by
  obtain ⟨hjustified, hbacked⟩ := h.settles (Keyed.settles s.keyed s.now hs s.decisions)
  refine ⟨h.ttl_eq, hbacked, fun hkey => ?_, h.justified.concat hjustified⟩
  obtain ⟨hempty, hpast⟩ := h.keyless hkey
  refine ⟨(hjustified.keyless hkey).2.trans hempty, fun c hc => ?_⟩
  rcases List.mem_append.mp hc with hold | hnew
  · exact hpast c hold
  · rw [List.mem_singleton.mp hnew]
    exact hkey

theorem step (h : s.Sound negativeTtl) (e : Event) : (Keyed.step s e).Sound negativeTtl := by
  cases e with
  | clock t => exact ⟨h.ttl_eq, h.backed, h.keyless, h.justified⟩
  | call hs => exact h.call hs
  | purge =>
    refine ⟨h.ttl_eq, h.backed.purge _, fun hkey => ⟨?_, (h.keyless hkey).2⟩, h.justified⟩
    have hempty : s.decisions = .empty := (h.keyless hkey).1
    simp only [Keyed.step, hempty]
    rfl
  | refresh fetched =>
    refine ⟨(negativeTtl_step s _).trans h.ttl_eq, h.backed, fun hkey => h.keyless ?_, h.justified⟩
    rw [key_step, Option.or_eq_none_iff] at hkey
    exact hkey.2

theorem after (negativeTtl : Duration) (m : Moment) (es : List Event) :
    (Keyed.after negativeTtl m es).Sound negativeTtl := by
  induction es using List.reverseRecOn with
  | nil => exact start negativeTtl m
  | append_singleton es e ih =>
    rw [after_concat]
    exact ih.step e

end State.Sound

/-- The secret in force is the last one fetched, also for each call. Whoever is let in has a token
that was good under the secret in force, in this call or in an earlier one whose acceptance still
counts; only a wrong signature is kept as a rejection; and before there is a secret nobody is let in
and nothing is kept. -/
theorem calls_verified (negativeTtl : Duration) (m : Moment) (es : List Event) :
    (after negativeTtl m es).keyed.key = (es.filterMap Event.secret?).getLast? ∧
      (∀ fetched, Event.secret? (.refresh fetched) = none →
        step (after negativeTtl m es) (.refresh fetched) = after negativeTtl m es) ∧
      (∀ h, ∃ c : Call, c.headers = h ∧ c.key = (es.filterMap Event.secret?).getLast? ∧
        (step (after negativeTtl m es) (.call h)).past = (after negativeTtl m es).past ++ [c]) ∧
      EachAfter (Call.Justified negativeTtl) (after negativeTtl m es).past ∧
      (es.filterMap Event.secret? = [] → (after negativeTtl m es).decisions = .empty ∧
        ∀ c ∈ (after negativeTtl m es).past,
          (∀ claims, c.result ≠ .ok claims) ∧ c.after = c.before) := by
  have hs := State.Sound.after negativeTtl m es
  have hkey := key_after negativeTtl m es
  refine ⟨hkey, fun _ => step_refresh_of_secret?_eq_none _, fun h => ⟨_, rfl, hkey, rfl⟩,
    hs.justified, fun hnone => ?_⟩
  rw [hnone] at hkey
  obtain ⟨hempty, hpast⟩ := hs.keyless hkey
  refine ⟨hempty, fun c hc => ?_⟩
  obtain ⟨earlier, hjustified⟩ := hs.justified.of_mem hc
  exact hjustified.keyless (hpast c hc)

end Gateway.Keyed
