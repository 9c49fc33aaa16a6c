import Gateway.Proofs.KeyedCalls
import Gateway.Proofs.RemoteCalls
import Gateway.Proofs.TokenReadings

/-! # Identities: a remembered acceptance stands for the claims that were once given with it -/
namespace Gateway

theorem isZero_of_remainingLifetime {m : Moment} {exp : Int} {ttl : Duration}
    (h : remainingLifetime m exp = some ttl) : ttl.isZero = false := by
  obtain ⟨hlive, rfl⟩ := remainingLifetime_eq_some_iff.mp h
  simp only [Duration.isZero, Duration.ofSecs, Duration.perSecond, beq_eq_false_iff_ne]
  omega

/-- A call as its cache sees it, whatever the strategy. -/
structure Visit where
  headers : Headers
  known : Option Bool
  result : Except Denial Claims
  ended : Duration
  before : Decisions
  after : Decisions

namespace Visit

/-- The call found nothing in the cache, gave claims for its token and left an acceptance of it. -/
structure Leaves (v : Visit) (token : String) (claims : Claims) (e : Decision) : Prop where
  carries : Credential.ofHeaders v.headers = .ok token
  fresh : v.known = none
  result : v.result = .ok claims
  stored : ∃ ttl : Duration, ttl.isZero = false ∧ e = ⟨true, v.ended.add ttl⟩ ∧
    v.after = v.before.set v.ended token true ttl

/-- If the call finds an acceptance, it gives the claims of the call that left that one. -/
def Recalls (earlier : List Visit) (v : Visit) : Prop :=
  v.known = some true → ∃ token claims e, Credential.ofHeaders v.headers = .ok token ∧
    v.result = .ok claims ∧ Assoc.get? token v.before.entries = some e ∧
      ∃ u ∈ earlier, u.Leaves token claims e

/-- Whoever is let in is who the token says. -/
def Literal (v : Visit) : Prop :=
  ∀ claims, v.result = .ok claims →
    ∃ token, Credential.ofHeaders v.headers = .ok token ∧ Credential.claims token = .ok claims

/-- What a call may do with the cache. -/
structure Lawful (v : Visit) : Prop where
  literal : v.Literal
  found : v.known = some true → ∃ token e, Credential.ofHeaders v.headers = .ok token ∧
    Assoc.get? token v.before.entries = some e ∧ e.accepted = true ∧
      v.result = Credential.claims token
  leaves : v.after.Backed fun token e =>
    (token, e) ∈ v.before.entries ∨ e.accepted = false ∨ ∃ claims, v.Leaves token claims e

variable {d : Decisions} {past : List Visit} {v : Visit}

/-- A remembered acceptance speaks for what its token says. -/
theorem lawful_of_accepted {token : String} {now : Duration}
    (hh : Credential.ofHeaders v.headers = .ok token)
    (hd : v.before.get? now token = some true) (hresult : v.result = Credential.claims token)
    (hafter : v.after = v.before) : v.Lawful where
  literal _ hclaims := ⟨token, hh, hresult.symm.trans hclaims⟩
  found _ := by
    obtain ⟨ends, hget, -⟩ := Decisions.get?_eq_some_iff.mp hd
    exact ⟨token, _, hh, hget, rfl, hresult⟩
  leaves := hafter ▸ fun _ he => Or.inl he

/-- A call that turns someone away leaves no acceptance. -/
theorem lawful_of_error {e : Denial} (hresult : v.result = .error e) (hknown : v.known ≠ some true)
    (hafter : v.after.Backed fun token e => (token, e) ∈ v.before.entries ∨ e.accepted = false) :
    v.Lawful where
  literal _ hclaims := nomatch hresult.symm.trans hclaims
  found h := absurd h hknown
  leaves := hafter.imp fun _ _ he => he.imp_right Or.inl

/-- Claims that are given afresh are those in the token, and an acceptance may be left of them. -/
theorem lawful_of_claims {token : String} {claims : Claims}
    (hh : Credential.ofHeaders v.headers = .ok token)
    (hclaims : Credential.claims token = .ok claims) (hknown : v.known = none)
    (hresult : v.result = .ok claims) (hafter : v.after = v.before ∨ ∃ ttl : Duration,
      ttl.isZero = false ∧ v.after = v.before.set v.ended token true ttl) : v.Lawful where
  literal claims' hclaims' := ⟨token, hh, hclaims.trans (hresult.symm.trans hclaims')⟩
  found h := nomatch hknown.symm.trans h
  leaves := by
    have hold : v.before.Backed fun token e => (token, e) ∈ v.before.entries ∨
        e.accepted = false ∨ ∃ claims, v.Leaves token claims e := fun _ he => Or.inl he
    rcases hafter with hsame | ⟨ttl, hzero, hset⟩
    · exact hsame ▸ hold
    · have hleaves : v.Leaves token claims ⟨true, v.ended.add ttl⟩ :=
        ⟨hh, hknown, hresult, ttl, hzero, rfl, hset⟩
      rw [hset]
      exact hold.set (Or.inr (Or.inr ⟨claims, hleaves⟩))

/-- What holds of a cache and the calls that have used it. -/
structure Recorded (d : Decisions) (past : List Visit) : Prop where
  backed : d.Backed fun token e =>
    e.accepted = true → ∃ v ∈ past, ∃ claims, v.Leaves token claims e
  literal : ∀ v ∈ past, v.Literal
  recalls : EachAfter Recalls past

namespace Recorded

theorem start : Recorded .empty [] where
  backed := Decisions.backed_empty _
  literal _ hv := nomatch hv
  recalls := EachAfter.nil _

theorem purge (h : Recorded d past) (now : Duration) : Recorded (d.purge now) past :=
  ⟨h.backed.purge now, h.literal, h.recalls⟩

theorem concat (h : Recorded v.before past) (hv : v.Lawful) :
    Recorded v.after (past ++ [v]) where
  backed := by
    refine hv.leaves.imp fun token e he haccepted => ?_
    rcases he with hold | hrejected | ⟨claims, hleaves⟩
    · obtain ⟨u, hu, hleaves⟩ := h.backed (token, e) hold haccepted
      exact ⟨u, List.mem_append_left _ hu, hleaves⟩
    · rw [hrejected] at haccepted
      cases haccepted
    · exact ⟨v, List.mem_append_right _ (List.mem_singleton_self v), claims, hleaves⟩
  literal := List.forall_mem_append.mpr ⟨h.literal, List.forall_mem_singleton.mpr hv.literal⟩
  recalls := by
    refine h.recalls.concat fun hknown => ?_
    obtain ⟨token, e, hh, hget, haccepted, hresult⟩ := hv.found hknown
    obtain ⟨u, hu, claims, hleaves⟩ := h.backed _ (Assoc.mem_of_get? hget) haccepted
    -- The earlier call read its claims from the same token, so this one reads the same.
    obtain ⟨token', hh', hclaims⟩ := h.literal u hu claims hleaves.result
    cases hh'.symm.trans hleaves.carries
    exact ⟨token, claims, e, hh, hresult.trans hclaims, hget, u, hu, hleaves⟩

end Recorded

/-- A history in which remembered acceptances give what was given before, and no token ever gives
two identities. -/
structure Faithful (past : List Visit) : Prop where
  recalls : EachAfter Recalls past
  unanimous : ∀ u ∈ past, ∀ v ∈ past, ∀ token claims claims',
    Credential.ofHeaders u.headers = .ok token → Credential.ofHeaders v.headers = .ok token →
      u.result = .ok claims → v.result = .ok claims' → claims = claims'

theorem Recorded.faithful (h : Recorded d past) : Faithful past where
  recalls := h.recalls
  unanimous u hu v hv token claims claims' hcu hcv hru hrv := by
    obtain ⟨token₁, hu₁, hclaims₁⟩ := h.literal u hu claims hru
    obtain ⟨token₂, hv₂, hclaims₂⟩ := h.literal v hv claims' hrv
    cases hu₁.symm.trans hcu
    cases hv₂.symm.trans hcv
    cases hclaims₁.symm.trans hclaims₂
    rfl

end Visit

namespace Remote
variable {r : Remote} {s : State}

def Call.visit (c : Call) : Visit :=
  ⟨c.headers, c.known, c.result, c.ended.steady, c.before, c.after⟩

theorem lawful_settled {m : Moment} {h : Headers} {d : Decisions} {result : Except Denial Claims}
    (ho : Opens m h d (.settled result)) :
    (Call.visit ⟨h, m, d.known m.steady h, none, m, result, d, d⟩).Lawful := by
  have hsame : d.Backed fun token e => (token, e) ∈ d.entries ∨ e.accepted = false :=
    fun _ he => Or.inl he
  cases ho with
  | unreadable hh =>
    refine Visit.lawful_of_error rfl (fun hknown => ?_) hsame
    simp only [Call.visit, Decisions.known, hh] at hknown
    cases hknown
  | accepted hh hd => exact Visit.lawful_of_accepted hh hd rfl rfl
  | rejected hh hd =>
    refine Visit.lawful_of_error rfl (fun hknown => ?_) hsame
    cases hknown.symm.trans ((Decisions.known_of_carries hh).trans hd)
  | useless hh hd he =>
    refine Visit.lawful_of_error rfl (fun hknown => ?_) hsame
    cases hknown.symm.trans ((Decisions.known_of_carries hh).trans hd)

theorem lawful_close {w : Waiting} (hw : w.Sound) (r : Remote) (v : Verdict) (m : Moment)
    (d : Decisions) : (w.close r v m d).visit.Lawful := by
  have hknown : (w.close r v m d).visit.known ≠ some true := fun h => nomatch hw.known.symm.trans h
  have hsame : d.Backed fun token e => (token, e) ∈ d.entries ∨ e.accepted = false :=
    fun _ he => Or.inl he
  cases v with
  | accepted =>
    refine Visit.lawful_of_claims hw.carries hw.claims hw.known rfl ?_
    simp only [Waiting.close, Call.visit, closing]
    cases hlife : remainingLifetime m w.exp with
    | none => exact Or.inl rfl
    | some ttl => exact Or.inr ⟨ttl, isZero_of_remainingLifetime hlife, rfl⟩
  | rejected reason => exact Visit.lawful_of_error rfl hknown (hsame.set (Or.inr rfl))
  | unavailable reason => exact Visit.lawful_of_error rfl hknown hsame

/-- The calls and their cache at all times. -/
structure State.Recorded (s : State) : Prop where
  waiting : ∀ w ∈ s.waiting, w.Sound
  past : Visit.Recorded s.decisions (s.past.map Call.visit)

namespace State.Recorded

theorem leave (h : s.Recorded) {c : Call} (hbefore : c.before = s.decisions)
    (hc : c.visit.Lawful) : (s.leave c).Recorded where
  waiting := h.waiting
  past := by
    have hpast : Visit.Recorded c.before (s.past.map Call.visit) := by
      rw [hbefore]
      exact h.past
    rw [State.leave, List.map_append]
    exact Visit.Recorded.concat (v := c.visit) hpast hc

theorem arrive (h : s.Recorded) (hs : Headers) : (s.arrive hs).Recorded := by
  refine ⟨State.waiting_sound_arrive h.waiting hs, ?_⟩
  have ho := opens s.now hs s.decisions
  unfold State.arrive
  generalize opening s.now hs s.decisions = o at ho
  cases o with
  | settled result => exact (h.leave rfl (lawful_settled ho)).past
  | asking token claims exp => exact h.past

theorem hear (h : s.Recorded) (r : Remote) (i : Nat) (v : Verdict) : (s.hear r i v).Recorded := by
  refine ⟨State.waiting_sound_hear h.waiting r i v, ?_⟩
  unfold State.hear
  cases hi : s.waiting[i]? with
  | none => exact h.past
  | some w =>
    have hw := h.waiting w (List.mem_of_getElem? hi)
    exact (h.leave rfl (lawful_close hw r v s.now s.decisions)).past

theorem step (h : s.Recorded) (e : Event) : (r.step s e).Recorded := by
  cases e with
  | clock t => exact ⟨h.waiting, h.past⟩
  | purge => exact ⟨h.waiting, h.past.purge _⟩
  | arrive hs => exact h.arrive hs
  | answer i v => exact h.hear r i v
  | timeOut i =>
    rw [step_timeOut]
    split_ifs
    · exact h.hear r i r.silence
    · exact h

theorem after (r : Remote) (m : Moment) (es : List Event) : (r.after m es).Recorded :=
  List.foldlRecOn es r.step ⟨(fun _ hw => nomatch hw), Visit.Recorded.start⟩
    fun _ hs e _ => hs.step e

end State.Recorded
end Remote

namespace Keyed
variable {s : State}

def Call.visit (c : Call) : Visit :=
  ⟨c.headers, c.known, c.result, c.time.steady, c.before, c.after⟩

/-- What a secret vouches for is what the token says of itself. -/
theorem claims_of_verify {k : Keyed} {m : Moment} {token : String} {claims : Claims}
    (h : k.verify m token = .ok claims) : Credential.claims token = .ok claims := by
  rw [verify] at h
  split at h
  · cases h
  · next key hkey =>
    split at h
    · next claims' hdecode =>
      cases h
      exact Signed.claims_of_decode hdecode
    · cases h

theorem lawful_call {k : Keyed} {m : Moment} {h : Headers} {d : Decisions} {key : Option String}
    {result : Except Denial Claims} {after : Decisions} (hcall : Settles k m h d result after) :
    (Call.visit ⟨h, m, key, d.known m.steady h, result, d, after⟩).Lawful := by
  have hsame : d.Backed fun token e => (token, e) ∈ d.entries ∨ e.accepted = false :=
    fun _ he => Or.inl he
  have hknown {token : String} {b : Option Bool} (hh : Credential.ofHeaders h = .ok token)
      (hd : d.get? m.steady token = b) (hb : b ≠ some true) : d.known m.steady h ≠ some true := by
    rw [Decisions.known_of_carries hh, hd]
    exact hb
  cases hcall with
  | unreadable hh =>
    refine Visit.lawful_of_error rfl (fun hknown => ?_) hsame
    simp only [Call.visit, Decisions.known, hh] at hknown
    cases hknown
  | accepted hh hd => exact Visit.lawful_of_accepted hh hd rfl rfl
  | rejected hh hd => exact Visit.lawful_of_error rfl (hknown hh hd (by decide)) hsame
  | keyless hh hd hkey => exact Visit.lawful_of_error rfl (hknown hh hd (by decide)) hsame
  | faulty hh hd hkey hbad hfault => exact Visit.lawful_of_error rfl (hknown hh hd (by decide)) hsame
  | forged hh hd hkey hbad =>
    exact Visit.lawful_of_error rfl (hknown hh hd (by decide)) (hsame.set (Or.inr rfl))
  | passing hh hd hkey hok hlife =>
    exact Visit.lawful_of_claims hh (Signed.claims_of_decode hok)
      ((Decisions.known_of_carries hh).trans hd) rfl (Or.inl rfl)
  | @lasting token key claims exp ttl hh hd hkey hok hexp hlife =>
    exact Visit.lawful_of_claims hh (Signed.claims_of_decode hok)
      ((Decisions.known_of_carries hh).trans hd) rfl
      (Or.inr ⟨ttl, isZero_of_remainingLifetime hlife, rfl⟩)

theorem recorded_step (h : Visit.Recorded s.decisions (s.past.map Call.visit)) (e : Event) :
    Visit.Recorded (step s e).decisions ((step s e).past.map Call.visit) := by
  cases e with
  | clock t => exact h
  | purge => exact h.purge _
  | refresh fetched => exact h
  | call hs =>
    rw [step, State.call, List.map_append]
    exact Visit.Recorded.concat h (lawful_call (settles s.keyed s.now hs s.decisions))

theorem recorded_after (negativeTtl : Duration) (m : Moment) (es : List Event) :
    Visit.Recorded (after negativeTtl m es).decisions
      ((after negativeTtl m es).past.map Call.visit) :=
  List.foldlRecOn es step
    (motive := fun s => Visit.Recorded s.decisions (s.past.map Call.visit))
    Visit.Recorded.start fun _ hs e _ => recorded_step hs e

end Keyed

/-- A token that a secret vouches for reads the same without the secret. So with either strategy a
call that is answered by a remembered acceptance gives exactly the claims of the call that left it,
and no token ever gives two identities. -/
theorem recalled_as_given :
    (∀ (k : Keyed) m token claims, k.verify m token = .ok claims →
      Credential.claims token = .ok claims) ∧
    (∀ (r : Remote) m es, Visit.Faithful ((r.after m es).past.map Remote.Call.visit)) ∧
    ∀ negativeTtl m es,
      Visit.Faithful ((Keyed.after negativeTtl m es).past.map Keyed.Call.visit) :=
  ⟨fun _ _ _ _ => Keyed.claims_of_verify,
    fun r m es => (Remote.State.Recorded.after r m es).past.faithful,
    fun negativeTtl m es => (Keyed.recorded_after negativeTtl m es).faithful⟩

/-- A token that is verified once, and answered from the cache when another secret is in force. -/
example :
    let h : Headers := ⟨[("authorization", Text.utf8
      "eyJhbGciOiJIUzI1NiJ9.eyJleHAiOjl9.GcNB7vWPtBHalAWxMoGxBUNpXy9NS5yG-AbeO7wE4l8")]⟩
    let claims : Claims := ⟨none, none, none, [], [], [], some 9⟩
    (Keyed.after .zero ⟨.zero, .ofSecs 1⟩ [.refresh (.ok "key"), .call h, .refresh (.ok "other"),
      .clock (.pass (.ofSecs 2)), .call h]).past.map (fun c => (c.key, c.known, c.result)) =
        [(some "key", none, .ok claims), (some "other", some true, .ok claims)] := by
  decide +kernel

end Gateway
