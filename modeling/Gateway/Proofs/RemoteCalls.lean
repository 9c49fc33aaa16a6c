import Gateway.Auth.Authority
import Gateway.Proofs.DecisionEntries
import Gateway.Proofs.Timelines
import Mathlib

/-! # Calls that overlap while they wait for a remote authority, and what justifies their answers -/
namespace Gateway

namespace Remote

/-- How a call can start, by what it finds in the cache and in the token. -/
inductive Opens (m : Moment) (h : Headers) (d : Decisions) : Opening → Prop
  | unreadable {e : Denial} (hh : Credential.ofHeaders h = .error e) :
    Opens m h d (.settled (.error e))
  | accepted {token : String} (hh : Credential.ofHeaders h = .ok token)
      (hd : d.get? m.steady token = some true) : Opens m h d (.settled (Credential.claims token))
  | rejected {token : String} (hh : Credential.ofHeaders h = .ok token)
      (hd : d.get? m.steady token = some false) :
    Opens m h d (.settled (.error (.rejected "recently rejected credential")))
  | useless {token : String} {e : Denial} (hh : Credential.ofHeaders h = .ok token)
      (hd : d.get? m.steady token = none) (he : e = .expired ∨ ∃ reason, e = .malformed reason) :
    Opens m h d (.settled (.error e))
  | asking {token : String} {claims : Claims} {exp : Int}
      (hh : Credential.ofHeaders h = .ok token) (hd : d.get? m.steady token = none)
      (hclaims : Credential.claims token = .ok claims) (hexp : claims.exp = some exp)
      (hlive : (m.date.secs : Int) < exp) : Opens m h d (.asking token claims exp)

theorem opens (m : Moment) (h : Headers) (d : Decisions) : Opens m h d (opening m h d) := by
  rw [opening]
  cases hh : Credential.ofHeaders h with
  | error e => exact .unreadable hh
  | ok token =>
    dsimp only
    rw [openToken, Decisions.answer]
    cases hd : d.get? m.steady token with
    | some accepted =>
      cases accepted with
      | true => exact .accepted hh hd
      | false => exact .rejected hh hd
    | none =>
      dsimp only
      cases hclaims : Credential.claims token with
      | error e => exact .useless hh hd (Or.inr (Credential.claims_error hclaims))
      | ok claims =>
        dsimp only
        cases hexp : claims.exp with
        | none => exact .useless hh hd (Or.inr ⟨_, rfl⟩)
        | some exp =>
          dsimp only
          cases hlife : remainingLifetime m exp with
          | none => exact .useless hh hd (Or.inl rfl)
          | some ttl =>
            exact .asking hh hd hclaims hexp (remainingLifetime_eq_some_iff.mp hlife).1

/-- A call that has read the cache and now waits for the authority. -/
structure Waiting where
  headers : Headers
  began : Moment
  known : Option Bool
  token : String
  claims : Claims
  exp : Int

/-- A call that has ended: what it found in the cache at its beginning, what it heard from the
authority if it asked, and the cache before and after its last step. -/
structure Call where
  headers : Headers
  began : Moment
  known : Option Bool
  verdict : Option Verdict
  ended : Moment
  result : Except Denial Claims
  before : Decisions
  after : Decisions

/-- The calls of one strategy that share a cache. -/
structure State where
  now : Moment
  decisions : Decisions
  waiting : List Waiting
  past : List Call

/-- What can happen next. Between two events of one call there may be any events of others. -/
inductive Event
  | clock (t : Tick)
  | purge
  | arrive (h : Headers)
  /-- The authority's answer reaches one of the waiting calls, however long it took. -/
  | answer (i : Nat) (v : Verdict)
  /-- One of the waiting calls gives up, if it has waited long enough. -/
  | timeOut (i : Nat)

/-- The end of a waiting call that has heard a verdict. -/
def Waiting.close (r : Remote) (v : Verdict) (m : Moment) (d : Decisions) (w : Waiting) : Call :=
  let (result, after) := r.closing m w.token w.claims w.exp v d
  ⟨w.headers, w.began, w.known, some v, m, result, d, after⟩

namespace State

def leave (c : Call) (s : State) : State :=
  { s with decisions := c.after, past := s.past ++ [c] }

def arrive (h : Headers) (s : State) : State :=
  let known := s.decisions.known s.now.steady h
  match opening s.now h s.decisions with
  | .settled result =>
    s.leave ⟨h, s.now, known, none, s.now, result, s.decisions, s.decisions⟩
  | .asking token claims exp =>
    { s with waiting := s.waiting ++ [⟨h, s.now, known, token, claims, exp⟩] }

def hear (r : Remote) (i : Nat) (v : Verdict) (s : State) : State :=
  match s.waiting[i]? with
  | some w => { s with waiting := s.waiting.eraseIdx i }.leave (w.close r v s.now s.decisions)
  | none => s

/-- Whether a call has waited as long as calls may. -/
def isDue (r : Remote) (i : Nat) (s : State) : Bool :=
  s.waiting[i]?.any fun w => w.began.steady.nanos + r.callTimeout.nanos ≤ s.now.steady.nanos

end State

def step (r : Remote) (s : State) : Event → State
  | .clock t => { s with now := s.now.tick t }
  | .purge => { s with decisions := s.decisions.purge s.now.steady }
  | .arrive h => s.arrive h
  | .answer i v => s.hear r i v
  | .timeOut i => if s.isDue r i then s.hear r i r.silence else s

/-- The state after some events, from an empty cache at a moment. -/
def after (r : Remote) (m : Moment) (es : List Event) : State :=
  es.foldl r.step ⟨m, .empty, [], []⟩

namespace Call

/-- The authority accepted the token that this call carried, and the acceptance is kept for the
lifetime of the token. -/
structure Accepted (c : Call) (token : String) (ttl : Duration) : Prop where
  carries : Credential.ofHeaders c.headers = .ok token
  verdict : c.verdict = some .accepted
  lifetime : ∃ claims exp, Credential.claims token = .ok claims ∧ claims.exp = some exp ∧
    remainingLifetime c.ended exp = some ttl
  stored : c.after = c.before.set c.ended.steady token true ttl

/-- The authority rejected the token that this call carried, and the rejection is kept. -/
structure Rejected (r : Remote) (c : Call) (token : String) : Prop where
  carries : Credential.ofHeaders c.headers = .ok token
  verdict : ∃ reason, c.verdict = some (.rejected reason)
  stored : c.after = c.before.set c.ended.steady token false r.negativeTtl

/-- A call left this entry in the cache. -/
def Backs (r : Remote) (token : String) (e : Decision) (c : Call) : Prop :=
  (∃ ttl, c.Accepted token ttl ∧ e = ⟨true, c.ended.steady.add ttl⟩) ∨
    c.Rejected r token ∧ e = ⟨false, c.ended.steady.add r.negativeTtl⟩

/-- What justifies the end of a call, by the calls that ended before it. -/
structure Justified (r : Remote) (earlier : List Call) (c : Call) : Prop where
  /-- Claims are given for a token that the authority accepted, in this call or in an earlier one
  whose acceptance the cache still had when this call read it. -/
  accepted : ∀ claims, c.result = .ok claims → ∃ token,
    Credential.ofHeaders c.headers = .ok token ∧ (c.verdict = some .accepted ∨
      c.known = some true ∧ ∃ e ∈ earlier, ∃ ttl, e.Accepted token ttl ∧
        Assoc.get? token c.before.entries = some ⟨true, e.ended.steady.add ttl⟩ ∧
        c.began.steady.nanos < e.ended.steady.nanos + ttl.nanos)
  /-- A token was rejected lately if the authority rejected it, not so long ago as rejections are
  kept. -/
  rejected : c.result = .error (.rejected "recently rejected credential") → ∃ token,
    Credential.ofHeaders c.headers = .ok token ∧ ∃ e ∈ earlier ++ [c], e.Rejected r token ∧
      e.ended.steady.nanos ≤ c.ended.steady.nanos ∧
      c.ended.steady.nanos < e.ended.steady.nanos + r.negativeTtl.nanos
  unasked : c.known ≠ none → c.verdict = none
  /-- Only a verdict on the token is worth keeping. -/
  unchanged : (∀ claims, c.result ≠ .ok claims) → (∀ reason, c.result ≠ .error (.rejected reason)) →
    c.after = c.before

end Call

/-- A call waits because the cache knew nothing and the token looked good. -/
structure Waiting.Sound (w : Waiting) : Prop where
  known : w.known = none
  carries : Credential.ofHeaders w.headers = .ok w.token
  claims : Credential.claims w.token = .ok w.claims
  exp : w.claims.exp = some w.exp
  unexpired : (w.began.date.secs : Int) < w.exp

theorem Waiting.sound_of_opens {m : Moment} {h : Headers} {d : Decisions} {token : String}
    {claims : Claims} {exp : Int} (ho : Opens m h d (.asking token claims exp)) :
    Waiting.Sound ⟨h, m, d.known m.steady h, token, claims, exp⟩ := by
  cases ho with
  | asking hh hd hclaims hexp hlive =>
    exact ⟨(Decisions.known_of_carries hh).trans hd, hh, hclaims, hexp, hlive⟩

namespace State
variable {s : State}

theorem waiting_sound_arrive (h : ∀ w ∈ s.waiting, w.Sound) (hs : Headers) :
    ∀ w ∈ (s.arrive hs).waiting, w.Sound := by
  have ho := opens s.now hs s.decisions
  unfold State.arrive
  generalize opening s.now hs s.decisions = o at ho
  cases o with
  | settled result => exact h
  | asking token claims exp =>
    exact List.forall_mem_append.mpr
      ⟨h, List.forall_mem_singleton.mpr (Waiting.sound_of_opens ho)⟩

theorem waiting_sound_hear (h : ∀ w ∈ s.waiting, w.Sound) (r : Remote) (i : Nat) (v : Verdict) :
    ∀ w ∈ (s.hear r i v).waiting, w.Sound := by
  unfold State.hear
  cases s.waiting[i]? with
  | none => exact h
  | some w => exact fun w' hw' => h w' (List.mem_of_mem_eraseIdx hw')

end State

/-- What holds of the calls and their cache at all times. -/
structure State.Sound (r : Remote) (s : State) : Prop where
  backed : s.decisions.Backed fun token e => ∃ c ∈ s.past, c.Backs r token e
  waiting : ∀ w ∈ s.waiting, w.Sound
  ended : ∀ c ∈ s.past, c.ended.steady.nanos ≤ s.now.steady.nanos
  justified : EachAfter (Call.Justified r) s.past

variable {r : Remote} {s : State}

theorem step_timeOut (r : Remote) (s : State) (i : Nat) :
    r.step s (.timeOut i) = if s.isDue r i then s.hear r i r.silence else s := rfl

namespace State.Sound

theorem start (r : Remote) (m : Moment) : State.Sound r ⟨m, .empty, [], []⟩ where
  backed := Decisions.backed_empty _
  waiting := fun _ hw => nomatch hw
  ended := fun _ hc => nomatch hc
  justified := EachAfter.nil _

/-- A call may leave if it is justified and what it leaves in the cache is backed. -/
theorem leave (h : s.Sound r) {c : Call} (hnow : c.ended = s.now) (hc : c.Justified r s.past)
    (hafter : c.after.Backed fun token e => ∃ c' ∈ s.past ++ [c], c'.Backs r token e) :
    (s.leave c).Sound r where
  backed := hafter
  waiting := h.waiting
  ended := by
    intro c' hc'
    rcases List.mem_append.mp hc' with hold | hnew
    · exact h.ended c' hold
    · rw [List.mem_singleton.mp hnew, hnow]
      exact Nat.le_refl _
  justified := h.justified.concat hc

/-- A call that is settled as it arrives is justified by the calls before it. -/
theorem justified_settled (h : s.Sound r) {hs : Headers} {result : Except Denial Claims}
    (ho : Opens s.now hs s.decisions (.settled result)) :
    Call.Justified r s.past ⟨hs, s.now, s.decisions.known s.now.steady hs, none, s.now, result,
      s.decisions, s.decisions⟩ where
  accepted := by
    intro claims hclaims
    cases ho with
    | unreadable hh => cases hclaims
    | rejected hh hd => cases hclaims
    | useless hh hd he => cases hclaims
    | @accepted token hh hd =>
      obtain ⟨ends, hget, hlive, c, hc, hbacks⟩ := h.backed.exists_of_get? hd
      rcases hbacks with ⟨ttl, hacc, he⟩ | ⟨-, he⟩
      · cases he
        refine ⟨token, hh, Or.inr ⟨?_, c, hc, ttl, hacc, hget, hlive⟩⟩
        rw [Decisions.known_of_carries hh, hd]
      · cases he
  rejected := by
    intro hrejected
    cases ho with
    | unreadable hh =>
      cases hrejected
      rcases Credential.ofHeaders_error hh with he | ⟨reason, he⟩ <;> cases he
    | accepted hh hd =>
      obtain ⟨reason, he⟩ := Credential.claims_error hrejected
      cases he
    | useless hh hd he =>
      cases hrejected
      rcases he with he | ⟨reason, he⟩ <;> cases he
    | @rejected token hh hd =>
      obtain ⟨ends, -, hlive, c, hc, hbacks⟩ := h.backed.exists_of_get? hd
      rcases hbacks with ⟨ttl, -, he⟩ | ⟨hrej, he⟩
      · cases he
      · cases he
        exact ⟨token, hh, c, List.mem_append_left _ hc, hrej, h.ended c hc, hlive⟩
  unasked := fun _ => rfl
  unchanged := fun _ _ => rfl

theorem arrive (h : s.Sound r) (hs : Headers) : (s.arrive hs).Sound r := by
  have ho := opens s.now hs s.decisions
  have hwaiting := State.waiting_sound_arrive h.waiting hs
  unfold State.arrive at hwaiting ⊢
  generalize opening s.now hs s.decisions = o at ho hwaiting ⊢
  cases o with
  | settled result => exact h.leave rfl (h.justified_settled ho) (h.backed.concat _)
  | asking token claims exp => exact ⟨h.backed, hwaiting, h.ended, h.justified⟩

/-- A verdict is all the justification that the end of a waiting call needs. -/
theorem justified_close (hneg : 0 < r.negativeTtl.nanos) {w : Waiting} (hw : w.Sound)
    (v : Verdict) (m : Moment) (d : Decisions) (earlier : List Call) :
    Call.Justified r earlier (w.close r v m d) where
  accepted := by
    intro claims hclaims
    cases v with
    | accepted => exact ⟨w.token, hw.carries, Or.inl rfl⟩
    | rejected reason => cases hclaims
    | unavailable reason => cases hclaims
  rejected := by
    intro hrejected
    cases v with
    | accepted => cases hrejected
    | unavailable reason => cases hrejected
    | rejected reason =>
      exact ⟨w.token, hw.carries, _, List.mem_append_right _ (List.mem_singleton_self _),
        ⟨hw.carries, ⟨reason, rfl⟩, rfl⟩, Nat.le_refl _, Nat.lt_add_of_pos_right hneg⟩
  unasked := fun hknown => absurd hw.known hknown
  unchanged := by
    intro hok hrejected
    cases v with
    | accepted => exact absurd rfl (hok w.claims)
    | rejected reason => exact absurd rfl (hrejected reason)
    | unavailable reason => rfl

/-- What a call leaves in the cache when it has heard a verdict was there or is backed by it. -/
theorem backed_close (h : s.Sound r) {w : Waiting} (hw : w.Sound) (v : Verdict) :
    (w.close r v s.now s.decisions).after.Backed fun token e =>
      ∃ c ∈ s.past ++ [w.close r v s.now s.decisions], c.Backs r token e := by
  have hold := h.backed.concat (w.close r v s.now s.decisions)
  have hself := List.mem_append_right s.past
    (List.mem_singleton_self (w.close r v s.now s.decisions))
  cases v with
  | unavailable reason => exact hold
  | rejected reason =>
    exact hold.set ⟨_, hself, Or.inr ⟨⟨hw.carries, ⟨reason, rfl⟩, rfl⟩, rfl⟩⟩
  | accepted =>
    cases hlife : remainingLifetime s.now w.exp with
    | none =>
      have hafter : (w.close r .accepted s.now s.decisions).after = s.decisions := by
        simp only [Waiting.close, closing, hlife]
      rwa [hafter]
    | some ttl =>
      have hafter : (w.close r .accepted s.now s.decisions).after =
          s.decisions.set s.now.steady w.token true ttl := by
        simp only [Waiting.close, closing, hlife]
      rw [hafter]
      have hacc : (w.close r .accepted s.now s.decisions).Accepted w.token ttl :=
        ⟨hw.carries, rfl, ⟨w.claims, w.exp, hw.claims, hw.exp, hlife⟩, hafter⟩
      exact hold.set ⟨_, hself, Or.inl ⟨ttl, hacc, rfl⟩⟩

theorem hear (hneg : 0 < r.negativeTtl.nanos) (h : s.Sound r) (i : Nat) (v : Verdict) :
    (s.hear r i v).Sound r := by
  unfold State.hear
  cases hi : s.waiting[i]? with
  | none => exact h
  | some w =>
    have hw := h.waiting w (List.mem_of_getElem? hi)
    have hrest : ({ s with waiting := s.waiting.eraseIdx i } : State).Sound r :=
      ⟨h.backed, fun w' hw' => h.waiting w' (List.mem_of_mem_eraseIdx hw'), h.ended, h.justified⟩
    exact hrest.leave rfl (justified_close hneg hw v s.now s.decisions s.past)
      (h.backed_close hw v)

theorem step (hneg : 0 < r.negativeTtl.nanos) (h : s.Sound r) (e : Event) :
    (r.step s e).Sound r := by
  cases e with
  | clock t =>
    exact ⟨h.backed, h.waiting, fun c hc => Nat.le_trans (h.ended c hc) (s.now.steady_le_tick t),
      h.justified⟩
  | purge => exact ⟨h.backed.purge _, h.waiting, h.ended, h.justified⟩
  | arrive hs => exact h.arrive hs
  | answer i v => exact h.hear hneg i v
  | timeOut i =>
    rw [step_timeOut]
    split_ifs
    · exact h.hear hneg i r.silence
    · exact h

theorem foldl_step (hneg : 0 < r.negativeTtl.nanos) (h : s.Sound r) (es : List Event) :
    (es.foldl r.step s).Sound r := by
  induction es generalizing s with
  | nil => exact h
  | cons e es ih => exact ih (h.step hneg e)

end State.Sound

/-- The events of a call that no other call interrupts. -/
def alone (r : Remote) (authority : String → Reply) (m : Moment) (h : Headers) (d : Decisions) :
    List Event :=
  .arrive h :: match opening m h d with
    | .settled _ => []
    | .asking token _ _ =>
      [.clock (.pass (r.await (authority token)).delay),
        if (authority token).delay.nanos ≤ r.callTimeout.nanos then
          .answer 0 (authority token).verdict
        else .timeOut 0]

/-- A whole call is a run of its events. -/
theorem foldl_alone (r : Remote) (authority : String → Reply) (m : Moment) (h : Headers)
    (d : Decisions) :
    let o := r.authenticate authority m h d
    let s := (r.alone authority m h d).foldl r.step ⟨m, d, [], []⟩
    s.past.map Call.result = [o.result] ∧ s.decisions = o.decisions ∧ s.waiting = [] ∧
      s.now = m.after o.elapsed := by
  dsimp only [authenticate, alone]
  cases ho : opening m h d with
  | settled result =>
    simp [step, State.arrive, State.leave, ho, Moment.after, Duration.add, Duration.zero]
  | asking token claims exp =>
    by_cases hdelay : (authority token).delay.nanos ≤ r.callTimeout.nanos
    · simp [step, State.arrive, State.hear, State.leave, Waiting.close, ho, hdelay, await,
        Moment.tick]
    · simp [step, State.arrive, State.hear, State.leave, State.isDue, Waiting.close, ho, hdelay,
        await, Moment.tick, Moment.after, Duration.add]

theorem decisions_arrive (s : State) (h : Headers) : (s.arrive h).decisions = s.decisions := by
  unfold State.arrive
  cases opening s.now h s.decisions <;> rfl

/-- However calls overlap, each answer is justified by what the authority said about the very token,
in the same call or in one that ended before; a call for which the cache knows the answer asks
nobody; and the cache learns from nothing but verdicts. -/
theorem calls_justified (r : Remote) (hneg : 0 < r.negativeTtl.nanos) (m : Moment)
    (es : List Event) :
    EachAfter (Call.Justified r) (r.after m es).past ∧
      (∀ w ∈ (r.after m es).waiting, w.known = none) ∧
      ∀ h, (r.step (r.after m es) (.arrive h)).decisions = (r.after m es).decisions := by
  have hs := (State.Sound.start r m).foldl_step hneg es
  exact ⟨hs.justified, fun w hw => (hs.waiting w hw).known, decisions_arrive _⟩

/-- Two calls with one token, about which the authority changes its mind, and a third one later. -/
def overlap : List Event :=
  let h : Headers := ⟨[("authorization", Text.utf8 "Bearer e30.eyJleHAiOjl9.s")]⟩
  [.arrive h, .arrive h, .answer 0 .accepted, .answer 0 (.rejected "revoked"),
    .clock (.pass (.ofSecs 5)), .arrive h]

/-- The rejection was the last word, although an acceptance for longer came before it. -/
theorem calls_justified_overlap :
    0 < standard.negativeTtl.nanos ∧ ∃ earlier c,
      (standard.after ⟨.zero, .ofSecs 1⟩ overlap).past = earlier ++ [c] ∧
        earlier.map Call.result =
          [.ok ⟨none, none, none, [], [], [], some 9⟩, .error (.rejected "revoked")] ∧
        ∃ token, ∃ e ∈ earlier ++ [c], e.Rejected standard token ∧
          c.ended.steady.nanos < e.ended.steady.nanos + standard.negativeTtl.nanos := by
  have hneg : 0 < standard.negativeTtl.nanos := by decide
  have hresults : (standard.after ⟨.zero, .ofSecs 1⟩ overlap).past.map Call.result =
      [.ok ⟨none, none, none, [], [], [], some 9⟩, .error (.rejected "revoked")] ++
        [.error (.rejected "recently rejected credential")] := by
    cbv
  obtain ⟨earlier, last, hpast, hearlier, hlast⟩ := List.map_eq_append_iff.mp hresults
  obtain ⟨c, rfl, hc⟩ := List.map_eq_singleton_iff.mp hlast
  obtain ⟨hjustified, -, -⟩ := calls_justified standard hneg ⟨.zero, .ofSecs 1⟩ overlap
  obtain ⟨token, -, e, he, hrejected, -, hlately⟩ := (hjustified earlier c [] hpast).rejected hc
  exact ⟨hneg, earlier, c, hpast, hearlier, token, e, he, hrejected, hlately⟩

end Remote
end Gateway
