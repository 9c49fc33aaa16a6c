import Gateway.Proofs.KeyedCalls
import Gateway.Proofs.RemoteCalls
import Gateway.Proofs.TokenReadings

/-! # Expiry: how far an acceptance reaches beyond the date in its token -/
namespace Gateway

theorem Duration.nanos_lt_next_sec (d : Duration) : d.nanos < (d.secs + 1) * perSecond := by
  rw [Nat.mul_comm]
  exact Nat.lt_mul_div_succ d.nanos (by decide)

namespace Decisions
variable {d : Decisions} {m : Moment} {token : String} {e : Decision}

/-- An acceptance is for a token with a date. If the clocks go on together, it ends before the
second of that date has passed. -/
def Dated (m : Moment) (token : String) (e : Decision) : Prop :=
  e.accepted = true → ∃ claims exp, Credential.claims token = .ok claims ∧ claims.exp = some exp ∧
    (e.ends.nanos + m.date.nanos : Int) < (exp + 1) * Duration.perSecond + m.steady.nanos

theorem Dated.after (h : Dated m token e) (span : Duration) : Dated (m.after span) token e := by
  intro haccepted
  obtain ⟨claims, exp, hclaims, hexp, hends⟩ := h haccepted
  refine ⟨claims, exp, hclaims, hexp, ?_⟩
  simp only [Moment.after, Duration.add]
  omega

theorem dated_rejection (m : Moment) (token : String) (ends : Duration) :
    Dated m token ⟨false, ends⟩ := fun haccepted => nomatch haccepted

/-- The span is counted from the whole second, but it is measured from the moment itself. -/
theorem dated_acceptance {claims : Claims} {exp : Int} {ttl : Duration}
    (hclaims : Credential.claims token = .ok claims) (hexp : claims.exp = some exp)
    (hlife : remainingLifetime m exp = some ttl) : Dated m token ⟨true, m.steady.add ttl⟩ := by
  intro _
  obtain ⟨hlive, rfl⟩ := remainingLifetime_eq_some_iff.mp hlife
  have hdate := m.date.nanos_lt_next_sec
  refine ⟨claims, exp, hclaims, hexp, ?_⟩
  simp only [Duration.add, Duration.ofSecs, Duration.perSecond] at hdate ⊢
  omega

/-- While an acceptance counts, the second of the token's date has not passed. -/
theorem secs_le_of_get? (h : d.Backed (Dated m)) (hd : d.get? m.steady token = some true) :
    ∃ claims exp, Credential.claims token = .ok claims ∧ claims.exp = some exp ∧
      (m.date.secs : Int) ≤ exp := by
  obtain ⟨ends, -, hlive, hdated⟩ := h.exists_of_get? hd
  obtain ⟨claims, exp, hclaims, hexp, hends⟩ := hdated rfl
  refine ⟨claims, exp, hclaims, hexp, ?_⟩
  simp only [Duration.secs, Duration.perSecond] at hends ⊢
  omega

end Decisions

namespace Remote
variable {r : Remote} {s : State}

/-- Whoever is let in has a token whose date is not over by a whole second as the call begins. If
the authority was asked, even the second of the date has not begun. -/
def Call.Timely (c : Call) : Prop :=
  ∀ claims, c.result = .ok claims → ∃ exp, claims.exp = some exp ∧
    (c.began.date.secs : Int) ≤ exp ∧ (c.verdict ≠ none → (c.began.date.secs : Int) < exp)

theorem Call.timely_of_error {c : Call} {e : Denial} (h : c.result = .error e) : c.Timely := by
  intro claims hclaims
  rw [h] at hclaims
  cases hclaims

/-- What holds of the calls and their cache while the clocks go on together. -/
structure State.Timely (s : State) : Prop where
  dated : s.decisions.Backed (Decisions.Dated s.now)
  waiting : ∀ w ∈ s.waiting, w.Sound
  past : ∀ c ∈ s.past, c.Timely

namespace State.Timely

theorem leave (h : s.Timely) {c : Call} (hc : c.Timely)
    (hafter : c.after.Backed (Decisions.Dated s.now)) : (s.leave c).Timely :=
  ⟨hafter, h.waiting, List.forall_mem_append.mpr ⟨h.past, List.forall_mem_singleton.mpr hc⟩⟩

theorem arrive (h : s.Timely) (hs : Headers) : (s.arrive hs).Timely := by
  have ho := opens s.now hs s.decisions
  unfold State.arrive
  generalize opening s.now hs s.decisions = o at ho
  cases o with
  | asking token claims exp =>
    exact ⟨h.dated, List.forall_mem_append.mpr
      ⟨h.waiting, List.forall_mem_singleton.mpr (Waiting.sound_of_opens ho)⟩, h.past⟩
  | settled result =>
    refine h.leave ?_ h.dated
    cases ho with
    | unreadable hh => exact Call.timely_of_error rfl
    | rejected hh hd => exact Call.timely_of_error rfl
    | useless hh hd he => exact Call.timely_of_error rfl
    | accepted hh hd =>
      intro claims hclaims
      obtain ⟨claims', exp, hclaims', hexp, hsecs⟩ := Decisions.secs_le_of_get? h.dated hd
      cases hclaims.symm.trans hclaims'
      exact ⟨exp, hexp, hsecs, fun hasked => absurd rfl hasked⟩

theorem timely_close {w : Waiting} (hw : w.Sound) (r : Remote) (v : Verdict) (m : Moment)
    (d : Decisions) : (w.close r v m d).Timely := by
  cases v with
  | rejected reason => exact Call.timely_of_error rfl
  | unavailable reason => exact Call.timely_of_error rfl
  | accepted =>
    intro claims hclaims
    cases hclaims
    exact ⟨w.exp, hw.exp, Int.le_of_lt hw.unexpired, fun _ => hw.unexpired⟩

theorem dated_close {w : Waiting} (hw : w.Sound) (r : Remote) (v : Verdict) {m : Moment}
    {d : Decisions} (hd : d.Backed (Decisions.Dated m)) :
    (w.close r v m d).after.Backed (Decisions.Dated m) := by
  cases v with
  | unavailable reason => exact hd
  | rejected reason => exact hd.set (Decisions.dated_rejection _ _ _)
  | accepted =>
    simp only [Waiting.close, closing]
    split
    · next ttl hlife => exact hd.set (Decisions.dated_acceptance hw.claims hw.exp hlife)
    · exact hd

theorem hear (h : s.Timely) (r : Remote) (i : Nat) (v : Verdict) : (s.hear r i v).Timely := by
  unfold State.hear
  cases hi : s.waiting[i]? with
  | none => exact h
  | some w =>
    have hw := h.waiting w (List.mem_of_getElem? hi)
    have hrest : ({ s with waiting := s.waiting.eraseIdx i } : State).Timely :=
      ⟨h.dated, fun w' hw' => h.waiting w' (List.mem_of_mem_eraseIdx hw'), h.past⟩
    exact hrest.leave (timely_close hw r v s.now s.decisions) (dated_close hw r v h.dated)

theorem step (h : s.Timely) {e : Event} (he : ∀ date, e ≠ .clock (.adjust date)) :
    (r.step s e).Timely := by
  cases e with
  | clock t =>
    cases t with
    | pass span => exact ⟨h.dated.imp fun _ _ hdated => hdated.after span, h.waiting, h.past⟩
    | adjust date => exact absurd rfl (he date)
  | purge => exact ⟨h.dated.purge _, h.waiting, h.past⟩
  | arrive hs => exact h.arrive hs
  | answer i v => exact h.hear r i v
  | timeOut i =>
    rw [step_timeOut]
    split_ifs
    · exact h.hear r i r.silence
    · exact h

theorem foldl_step (h : s.Timely) {es : List Event}
    (hes : ∀ date, .clock (.adjust date) ∉ es) : (es.foldl r.step s).Timely := by
  refine List.foldlRecOn es r.step h fun s hs e he => ?_
  exact hs.step fun date hadjust => hes date (hadjust ▸ he)

theorem start (m : Moment) : State.Timely ⟨m, .empty, [], []⟩ where
  dated := Decisions.backed_empty _
  waiting := fun _ hw => nomatch hw
  past := fun _ hc => nomatch hc

end State.Timely
end Remote

namespace Keyed
variable {s : State}

/-- Whoever is let in has a token whose date is not over by a whole second. -/
def Call.Timely (c : Call) : Prop :=
  ∀ claims, c.result = .ok claims → ∃ exp, claims.exp = some exp ∧ (c.time.date.secs : Int) ≤ exp

/-- What holds of the calls and their cache while the clocks go on together. -/
structure State.Timely (s : State) : Prop where
  dated : s.decisions.Backed (Decisions.Dated s.now)
  past : ∀ c ∈ s.past, c.Timely

namespace State.Timely

/-- Any end of a call is in time, and so is what it leaves in the cache. -/
theorem settles {k : Keyed} {m : Moment} {h : Headers} {d : Decisions}
    {result : Except Denial Claims} {after : Decisions}
    (hd : d.Backed (Decisions.Dated m)) (hcall : Settles k m h d result after) :
    (∀ claims, result = .ok claims → ∃ exp, claims.exp = some exp ∧ (m.date.secs : Int) ≤ exp) ∧
      after.Backed (Decisions.Dated m) := by
  cases hcall with
  | unreadable hh => exact ⟨(fun _ hok => nomatch hok), hd⟩
  | rejected hh hknown => exact ⟨(fun _ hok => nomatch hok), hd⟩
  | keyless hh hknown hkey => exact ⟨(fun _ hok => nomatch hok), hd⟩
  | faulty hh hknown hkey hbad hfault => exact ⟨(fun _ hok => nomatch hok), hd⟩
  | forged hh hknown hkey hbad =>
    exact ⟨(fun _ hok => nomatch hok), hd.set (Decisions.dated_rejection _ _ _)⟩
  | accepted hh hknown =>
    refine ⟨fun claims hclaims => ?_, hd⟩
    obtain ⟨claims', exp, hclaims', hexp, hsecs⟩ := Decisions.secs_le_of_get? hd hknown
    cases hclaims.symm.trans hclaims'
    exact ⟨exp, hexp, hsecs⟩
  | passing hh hknown hkey hok hlife =>
    refine ⟨fun claims hclaims => ?_, hd⟩
    cases hclaims
    exact Signed.exp_of_decode hok
  | lasting hh hknown hkey hok hexp hlife =>
    refine ⟨fun claims hclaims => ?_,
      hd.set (Decisions.dated_acceptance (Signed.claims_of_decode hok) hexp hlife)⟩
    cases hclaims
    exact Signed.exp_of_decode hok

theorem call (h : s.Timely) (hs : Headers) : (s.call hs).Timely := by
  obtain ⟨htimely, hdated⟩ := settles h.dated (Keyed.settles s.keyed s.now hs s.decisions)
  exact ⟨hdated, List.forall_mem_append.mpr ⟨h.past, List.forall_mem_singleton.mpr htimely⟩⟩

theorem step (h : s.Timely) {e : Event} (he : ∀ date, e ≠ .clock (.adjust date)) :
    (Keyed.step s e).Timely := by
  cases e with
  | clock t =>
    cases t with
    | pass span => exact ⟨h.dated.imp fun _ _ hdated => hdated.after span, h.past⟩
    | adjust date => exact absurd rfl (he date)
  | purge => exact ⟨h.dated.purge _, h.past⟩
  | refresh fetched => exact ⟨h.dated, h.past⟩
  | call hs => exact h.call hs

theorem foldl_step (h : s.Timely) {es : List Event}
    (hes : ∀ date, .clock (.adjust date) ∉ es) : (es.foldl Keyed.step s).Timely := by
  refine List.foldlRecOn es Keyed.step h fun s hs e he => ?_
  exact hs.step fun date hadjust => hes date (hadjust ▸ he)

theorem start (negativeTtl : Duration) (m : Moment) :
    State.Timely ⟨m, ⟨none, negativeTtl⟩, .empty, []⟩ where
  dated := Decisions.backed_empty _
  past := fun _ hc => nomatch hc

end State.Timely
end Keyed

/-- While the clocks go on together, no call that begins a whole second or more after the date in
its token is let in, neither on a fresh verdict nor on a remembered one. -/
theorem accepted_until_expiry (r : Remote) (negativeTtl : Duration) (m : Moment)
    {es : List Remote.Event} {es' : List Keyed.Event} (hes : ∀ date, .clock (.adjust date) ∉ es)
    (hes' : ∀ date, .clock (.adjust date) ∉ es') :
    (∀ c ∈ (r.after m es).past, c.Timely) ∧ ∀ c ∈ (Keyed.after negativeTtl m es').past, c.Timely :=
  ⟨((Remote.State.Timely.start m).foldl_step hes).past,
    ((Keyed.State.Timely.start negativeTtl m).foldl_step hes').past⟩

/-- A token for the ninth second, signed with the secret "key". -/
def ninthSecond : Headers :=
  ⟨[("authorization",
    Text.utf8 "eyJhbGciOiJIUzI1NiJ9.eyJleHAiOjl9.GcNB7vWPtBHalAWxMoGxBUNpXy9NS5yG-AbeO7wE4l8")]⟩

/-- A verdict just before the date, and a call with the same token just after it. -/
def remoteLate : List Remote.Event :=
  [.arrive ninthSecond, .answer 0 .accepted, .clock (.pass (.ofMillis 500)), .arrive ninthSecond]

def keyedLate : List Keyed.Event := [.refresh (.ok "key"), .call ninthSecond]

/-- Within the second of its date a token is still good: a remembered acceptance ends as far into
that second as it was given into its own, and a signature is good until that second is over. -/
theorem accepted_after_expiry :
    ((∀ date, .clock (.adjust date) ∉ remoteLate) ∧
      ∃ c ∈ (Remote.standard.after ⟨.zero, .ofMillis 8900⟩ remoteLate).past,
        c.result = .ok ⟨none, none, none, [], [], [], some 9⟩ ∧ c.known = some true ∧
          9 * Duration.perSecond < c.began.date.nanos) ∧
    (∀ date, .clock (.adjust date) ∉ keyedLate) ∧
      ∃ c ∈ (Keyed.after .zero ⟨.zero, .ofMillis 9500⟩ keyedLate).past,
        c.result = .ok ⟨none, none, none, [], [], [], some 9⟩ ∧ c.known = none ∧
          9 * Duration.perSecond < c.time.date.nanos := by
  refine ⟨⟨fun date => by simp [remoteLate], ?_⟩, fun date => by simp [keyedLate], ?_⟩
  · decide +kernel
  · decide +kernel

/-- The remembered acceptance is over by the next second. -/
theorem accepted_until_expiry_ninth :
    ((∀ date, .clock (.adjust date) ∉ remoteLate) ∧ ∀ date, .clock (.adjust date) ∉ keyedLate) ∧
      (∀ c ∈ (Remote.standard.after ⟨.zero, .ofMillis 8900⟩ remoteLate).past, c.Timely) ∧
      ∀ c ∈ (Keyed.after .zero ⟨.zero, .ofMillis 8900⟩ keyedLate).past, c.Timely := by
  have hremote : ∀ date, .clock (.adjust date) ∉ remoteLate := fun date => by simp [remoteLate]
  have hkeyed : ∀ date, .clock (.adjust date) ∉ keyedLate := fun date => by simp [keyedLate]
  exact ⟨⟨hremote, hkeyed⟩,
    accepted_until_expiry .standard .zero ⟨.zero, .ofMillis 8900⟩ hremote hkeyed⟩

end Gateway
