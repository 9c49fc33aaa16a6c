import Gateway.Proofs.KeyedCalls
import Gateway.Proofs.RemoteCalls

/-! # Independence: what happens to one token has nothing to do with calls for others -/
namespace Gateway

/-- Whether headers carry a token, however they spell it. -/
def Headers.carries (token : String) (h : Headers) : Bool :=
  decide (Credential.ofHeaders h = .ok token)

@[simp] theorem Headers.carries_iff {token : String} {h : Headers} :
    h.carries token = true ↔ Credential.ofHeaders h = .ok token := decide_eq_true_iff

/-- What is seen of a call from outside. -/
structure Report where
  headers : Headers
  began : Moment
  ended : Moment
  result : Except Denial Claims

/-- The reports of the calls with one token. -/
def Report.about (token : String) (rs : List Report) : List Report :=
  rs.filter fun r => r.headers.carries token

theorem Report.about_concat (token : String) (rs : List Report) (r : Report) :
    about token (rs ++ [r]) = about token rs ++ if r.headers.carries token then [r] else [] := by
  rw [about, List.filter_append, ← about, List.filter_singleton]
  cases r.headers.carries token <;> rfl

/-- With the same knowledge of a token, the same is answered. -/
theorem Decisions.answer_congr {d d' : Decisions} {now : Duration} {token : String}
    (h : d.get? now token = d'.get? now token) : d.answer now token = d'.answer now token := by
  rw [answer, answer, h]

namespace Remote
open Decisions
variable {r : Remote} {m : Moment} {token : String} {h : Headers} {d d' : Decisions} {s s' : State}

/-- An authority whose replies hang on the token and on when it is asked. -/
abbrev Oracle := String → Moment → Reply

/-- What can happen to calls that ask such an authority. -/
inductive Act
  | clock (t : Tick)
  | purge
  | arrive (h : Headers)
  /-- Of the calls that wait with a token, the one at a place looks if it can go on. -/
  | wake (token : String) (place : Nat)

/-- What a waiting call hears at a time: the reply when it is there, and silence when it has waited
as long as calls may. -/
def Waiting.heard? (r : Remote) (oracle : Oracle) (now : Moment) (w : Waiting) : Option Verdict :=
  let reply := oracle w.token w.began
  if w.began.steady.nanos + reply.delay.nanos ≤ now.steady.nanos then some reply.verdict
  else if w.began.steady.nanos + r.callTimeout.nanos ≤ now.steady.nanos then some r.silence
  else none

/-- The call at a place among those that wait with a token, and all others that wait. -/
def pick? (token : String) : Nat → List Waiting → Option (Waiting × List Waiting)
  | _, [] => none
  | k, w :: ws =>
    if w.token = token then
      match k with
      | 0 => some (w, ws)
      | k + 1 => (pick? token k ws).map fun p => (p.1, w :: p.2)
    else (pick? token k ws).map fun p => (p.1, w :: p.2)

def State.wake (r : Remote) (oracle : Oracle) (token : String) (place : Nat) (s : State) : State :=
  match pick? token place s.waiting with
  | none => s
  | some (w, rest) =>
    match w.heard? r oracle s.now with
    | none => s
    | some v => { s with waiting := rest }.leave (w.close r v s.now s.decisions)

def act (r : Remote) (oracle : Oracle) (s : State) : Act → State
  | .clock t => { s with now := s.now.tick t }
  | .purge => { s with decisions := s.decisions.purge s.now.steady }
  | .arrive h => s.arrive h
  | .wake token place => s.wake r oracle token place

/-- The state after some acts, from an empty cache at a moment. -/
def afterActs (r : Remote) (oracle : Oracle) (m : Moment) (acts : List Act) : State :=
  acts.foldl (r.act oracle) ⟨m, .empty, [], []⟩

/-- The token that an act makes a call ask the authority about. -/
def State.inquiry? (s : State) : Act → Option String
  | .arrive h =>
    match opening s.now h s.decisions with
    | .asking token _ _ => some token
    | .settled _ => none
  | _ => none

/-- What the authority is asked from a state on, and when. -/
def inquiries (r : Remote) (oracle : Oracle) : State → List Act → List (String × Moment)
  | _, [] => []
  | s, a :: acts =>
    (s.inquiry? a).toList.map (·, s.now) ++ inquiries r oracle (r.act oracle s a) acts

def Call.report (c : Call) : Report := ⟨c.headers, c.began, c.ended, c.result⟩

/-- Whether an act is left when calls for other tokens and purges are taken out. -/
def Act.isFor (token : String) : Act → Bool
  | .clock _ => true
  | .purge => false
  | .arrive h => h.carries token
  | .wake t _ => t == token

/-! ## Calls that wait -/

section
variable {token' : String} {place : Nat} {w : Waiting} {ws rest : List Waiting}

theorem pick?_cons_of_ne (h : w.token ≠ token) (place : Nat) (ws : List Waiting) :
    pick? token place (w :: ws) = (pick? token place ws).map fun p => (p.1, w :: p.2) := by
  cases place <;> rw [pick?, if_neg h]

theorem pick?_cons_zero (h : w.token = token) (ws : List Waiting) :
    pick? token 0 (w :: ws) = some (w, ws) := by
  rw [pick?, if_pos h]

theorem pick?_cons_succ (h : w.token = token) (place : Nat) (ws : List Waiting) :
    pick? token (place + 1) (w :: ws) =
      (pick? token place ws).map fun p => (p.1, w :: p.2) := by
  rw [pick?, if_pos h]

/-- A call that is picked is one of those that wait with the token. -/
theorem pick?_eq_some (h : pick? token place ws = some (w, rest)) :
    w.token = token ∧ ∃ i, ws[i]? = some w ∧ ws.eraseIdx i = rest := by
  induction ws generalizing place rest with
  | nil => cases h
  | cons w' ws ih =>
    have hlater {k : Nat} (hk : (pick? token k ws).map (fun p => (p.1, w' :: p.2)) =
        some (w, rest)) : w.token = token ∧ ∃ i, (w' :: ws)[i]? = some w ∧
          (w' :: ws).eraseIdx i = rest := by
      obtain ⟨⟨w₁, rest₁⟩, hpick, heq⟩ := Option.map_eq_some_iff.mp hk
      cases heq
      obtain ⟨htoken, i, hi, hrest⟩ := ih hpick
      exact ⟨htoken, i + 1, hi, by rw [List.eraseIdx_cons_succ, hrest]⟩
    by_cases htoken : w'.token = token
    · cases place with
      | zero =>
        rw [pick?_cons_zero htoken] at h
        cases h
        exact ⟨htoken, 0, rfl, rfl⟩
      | succ k =>
        rw [pick?_cons_succ htoken] at h
        exact hlater h
    · rw [pick?_cons_of_ne htoken] at h
      exact hlater h

/-- The calls that wait with one token. -/
def ofToken (token : String) (ws : List Waiting) : List Waiting :=
  ws.filter fun w => w.token = token

theorem ofToken_cons (h : w.token = token) (ws : List Waiting) :
    ofToken token (w :: ws) = w :: ofToken token ws :=
  List.filter_cons_of_pos (decide_eq_true h)

theorem ofToken_cons_of_ne (h : w.token ≠ token) (ws : List Waiting) :
    ofToken token (w :: ws) = ofToken token ws :=
  List.filter_cons_of_neg (by simpa using h)

theorem ofToken_concat (h : w.token = token) (ws : List Waiting) :
    ofToken token (ws ++ [w]) = ofToken token ws ++ [w] := by
  rw [ofToken, List.filter_append, ← ofToken, ← ofToken, ofToken_cons h]
  rfl

theorem ofToken_concat_of_ne (h : w.token ≠ token) (ws : List Waiting) :
    ofToken token (ws ++ [w]) = ofToken token ws := by
  rw [ofToken, List.filter_append, ← ofToken, ← ofToken, ofToken_cons_of_ne h]
  exact List.append_nil _

/-- With all others gone the same call is picked. -/
theorem pick?_ofToken (token : String) (place : Nat) (ws : List Waiting) :
    pick? token place (ofToken token ws) =
      (pick? token place ws).map fun p => (p.1, ofToken token p.2) := by
  induction ws generalizing place with
  | nil => rfl
  | cons w ws ih =>
    by_cases htoken : w.token = token
    · rw [ofToken_cons htoken]
      cases place with
      | zero => rw [pick?_cons_zero htoken, pick?_cons_zero htoken, Option.map_some]
      | succ k =>
        rw [pick?_cons_succ htoken, pick?_cons_succ htoken, ih, Option.map_map, Option.map_map]
        refine congrArg (Option.map · _) (funext fun p => ?_)
        rw [Function.comp_apply, Function.comp_apply, ofToken_cons htoken]
    · rw [ofToken_cons_of_ne htoken, pick?_cons_of_ne htoken, ih, Option.map_map]
      refine congrArg (Option.map · _) (funext fun p => ?_)
      rw [Function.comp_apply, ofToken_cons_of_ne htoken]

theorem ofToken_eraseIdx {i : Nat} (hi : ws[i]? = some w) (hw : w.token ≠ token) :
    ofToken token (ws.eraseIdx i) = ofToken token ws := by
  induction ws generalizing i with
  | nil => rfl
  | cons w' ws ih =>
    cases i with
    | zero =>
      obtain rfl := Option.some.inj hi
      rw [List.eraseIdx_cons_zero, ofToken_cons_of_ne hw]
    | succ i =>
      rw [List.eraseIdx_cons_succ]
      by_cases htoken : w'.token = token
      · rw [ofToken_cons htoken, ofToken_cons htoken, ih hi]
      · rw [ofToken_cons_of_ne htoken, ofToken_cons_of_ne htoken, ih hi]

end

/-! ## One act -/

/-- What of a verdict is kept of the token, and for how long. -/
def kept (r : Remote) (m : Moment) (exp : Int) : Verdict → Option (Bool × Duration)
  | .accepted => (remainingLifetime m exp).map (true, ·)
  | .rejected _ => some (false, r.negativeTtl)
  | .unavailable _ => none

theorem after_close (r : Remote) (v : Verdict) (m : Moment) (d : Decisions) (w : Waiting) :
    (w.close r v m d).after = d.keep m.steady w.token (r.kept m w.exp v) := by
  cases v with
  | accepted =>
    simp only [Waiting.close, closing, kept]
    cases remainingLifetime m w.exp <;> rfl
  | rejected reason => rfl
  | unavailable reason => rfl

/-- The verdict alone decides how a waiting call ends. -/
theorem report_close (r : Remote) (v : Verdict) (m : Moment) (d d' : Decisions) (w : Waiting) :
    (w.close r v m d).report = (w.close r v m d').report := by
  cases v <;> rfl

theorem headers_close (r : Remote) (v : Verdict) (m : Moment) (d : Decisions) (w : Waiting) :
    (w.close r v m d).headers = w.headers := rfl

/-- A call with a token starts the same wherever the same is known of the token. -/
theorem opening_congr (hh : Credential.ofHeaders h = .ok token)
    (hd : d.get? m.steady token = d'.get? m.steady token) :
    opening m h d = opening m h d' := by
  rw [opening, opening, hh]
  dsimp only
  rw [openToken, openToken, Decisions.answer_congr hd]

/-- A state, and the same one without other tokens and purges. -/
structure Alike (token : String) (s s' : State) : Prop where
  now : s'.now = s.now
  known : s.decisions.AgreeFrom s.now.steady token s'.decisions
  waiting : s'.waiting = ofToken token s.waiting
  past : s'.past.map Call.report = Report.about token (s.past.map Call.report)
  nodup : (Assoc.keys s.decisions.entries).Nodup
  sound : ∀ w ∈ s.waiting, w.Sound

namespace Alike

theorem tick (h : Alike token s s') (t : Tick) :
    Alike token { s with now := s.now.tick t } { s' with now := s'.now.tick t } where
  now := congrArg (·.tick t) h.now
  known := h.known.later (s.now.steady_le_tick t)
  waiting := h.waiting
  past := h.past
  nodup := h.nodup
  sound := h.sound

theorem purge (h : Alike token s s') :
    Alike token { s with decisions := s.decisions.purge s.now.steady } s' where
  now := h.now
  known := (agreeFrom_purge h.nodup s.now.steady token).trans h.known
  waiting := h.waiting
  past := h.past
  nodup := nodup_purge h.nodup s.now.steady
  sound := h.sound

/-- Two calls with the token that end alike. -/
theorem leave {c c' : Call} (h : Alike token s s') (hreport : c'.report = c.report)
    (hcarries : c.headers.carries token = true)
    (hknown : c.after.AgreeFrom s.now.steady token c'.after)
    (hnodup : (Assoc.keys c.after.entries).Nodup) : Alike token (s.leave c) (s'.leave c') where
  now := h.now
  known := hknown
  waiting := h.waiting
  past := by
    have hcarries : c.report.headers.carries token = true := hcarries
    rw [State.leave, State.leave, List.map_append, List.map_append, h.past, List.map_singleton,
      List.map_singleton, Report.about_concat, if_pos hcarries, hreport]
  nodup := hnodup
  sound := h.sound

/-- A call with another token. -/
theorem leave_other {c : Call} (h : Alike token s s') (hother : c.headers.carries token = false)
    (hknown : c.after.AgreeFrom s.now.steady token s.decisions)
    (hnodup : (Assoc.keys c.after.entries).Nodup) : Alike token (s.leave c) s' where
  now := h.now
  known := hknown.trans h.known
  waiting := h.waiting
  past := by
    have hother : c.report.headers.carries token = false := hother
    rw [State.leave, List.map_append, List.map_singleton, Report.about_concat, hother, h.past]
    exact (List.append_nil _).symm
  nodup := hnodup
  sound := h.sound

theorem arrive (h : Alike token s s') {hs : Headers} (hh : Credential.ofHeaders hs = .ok token) :
    Alike token (s.arrive hs) (s'.arrive hs) := by
  obtain ⟨now', d', ws', past'⟩ := s'
  obtain rfl : now' = s.now := h.now
  have hknown : s.decisions.known s.now.steady hs = d'.known s.now.steady hs := by
    rw [known_of_carries hh, known_of_carries hh]
    exact h.known.get?_eq
  have hopening : opening s.now hs d' = opening s.now hs s.decisions :=
    (opening_congr hh h.known.get?_eq).symm
  have hsound := State.waiting_sound_arrive h.sound hs
  have ho := opens s.now hs s.decisions
  unfold State.arrive at hsound ⊢
  rw [hopening]
  generalize opening s.now hs s.decisions = o at ho hsound ⊢
  cases o with
  | settled result =>
    exact h.leave rfl (Headers.carries_iff.mpr hh) h.known h.nodup
  | asking token' claims exp =>
    cases ho with
    | asking hh' hd hclaims hexp hlive =>
      obtain rfl := Except.ok.inj (hh.symm.trans hh')
      refine ⟨rfl, h.known, ?_, h.past, h.nodup, hsound⟩
      rw [hknown]
      refine Eq.trans ?_ (ofToken_concat ?_ s.waiting).symm
      · exact congrArg (· ++ _) h.waiting
      · rfl

theorem arrive_other (h : Alike token s s') {hs : Headers}
    (hother : hs.carries token = false) : Alike token (s.arrive hs) s' := by
  have hsound := State.waiting_sound_arrive h.sound hs
  have ho := opens s.now hs s.decisions
  unfold State.arrive at hsound ⊢
  generalize opening s.now hs s.decisions = o at ho hsound ⊢
  cases o with
  | settled result => exact h.leave_other hother (.refl _ _ _) h.nodup
  | asking token' claims exp =>
    cases ho with
    | asking hh' hd hclaims hexp hlive =>
      have hne : token' ≠ token := by
        rintro rfl
        rw [Headers.carries, decide_eq_false_iff_not] at hother
        exact hother hh'
      refine ⟨h.now, h.known, ?_, h.past, h.nodup, hsound⟩
      exact h.waiting.trans (ofToken_concat_of_ne hne s.waiting).symm

theorem wake (h : Alike token s s') (r : Remote) (oracle : Oracle) (place : Nat) :
    Alike token (s.wake r oracle token place) (s'.wake r oracle token place) := by
  obtain ⟨now', d', ws', past'⟩ := s'
  obtain rfl : now' = s.now := h.now
  obtain rfl : ws' = ofToken token s.waiting := h.waiting
  unfold State.wake
  rw [pick?_ofToken]
  cases hpick : pick? token place s.waiting with
  | none => exact h
  | some p =>
    obtain ⟨w, rest⟩ := p
    obtain ⟨htoken, i, hi, hrest⟩ := pick?_eq_some hpick
    have hw := h.sound w (List.mem_of_getElem? hi)
    dsimp only [Option.map_some]
    cases w.heard? r oracle s.now with
    | none => exact h
    | some v =>
      have hleft : Alike token { s with waiting := rest }
          ⟨s.now, d', ofToken token rest, past'⟩ :=
        ⟨rfl, h.known, rfl, h.past, h.nodup,
          fun w' hw' => h.sound w' (List.mem_of_mem_eraseIdx (hrest ▸ hw'))⟩
      refine hleft.leave (report_close ..) ?_ ?_ ?_
      · rw [headers_close, Headers.carries_iff, hw.carries, htoken]
      · rw [after_close, after_close, htoken]
        exact h.known.keep _ _
      · rw [after_close]
        exact nodup_keep h.nodup _ _ _

theorem wake_other (h : Alike token s s') {token' : String} (hne : token' ≠ token) (r : Remote)
    (oracle : Oracle) (place : Nat) : Alike token (s.wake r oracle token' place) s' := by
  unfold State.wake
  cases hpick : pick? token' place s.waiting with
  | none => exact h
  | some p =>
    obtain ⟨w, rest⟩ := p
    obtain ⟨htoken, i, hi, hrest⟩ := pick?_eq_some hpick
    have hw := h.sound w (List.mem_of_getElem? hi)
    dsimp only
    cases w.heard? r oracle s.now with
    | none => exact h
    | some v =>
      have hleft : Alike token { s with waiting := rest } s' :=
        ⟨h.now, h.known, by rw [h.waiting, ← hrest, ofToken_eraseIdx hi (htoken ▸ hne)], h.past,
          h.nodup, fun w' hw' => h.sound w' (List.mem_of_mem_eraseIdx (hrest ▸ hw'))⟩
      refine hleft.leave_other ?_ ?_ ?_
      · rw [headers_close, Headers.carries, hw.carries, htoken]
        simpa using hne
      · rw [after_close]
        exact agreeFrom_keep_of_ne (htoken ▸ hne) _ _ _ _
      · rw [after_close]
        exact nodup_keep h.nodup _ _ _

/-- An act that is for the token, done in both. -/
theorem act (h : Alike token s s') (r : Remote) (oracle : Oracle) {a : Act}
    (ha : a.isFor token = true) : Alike token (r.act oracle s a) (r.act oracle s' a) := by
  cases a with
  | clock t => exact h.tick t
  | purge => cases ha
  | arrive hs => exact h.arrive (Headers.carries_iff.mp ha)
  | wake token' place =>
    obtain rfl := beq_iff_eq.mp ha
    exact h.wake r oracle place

/-- An act that is not for the token, left out in one. -/
theorem act_other (h : Alike token s s') (r : Remote) (oracle : Oracle) {a : Act}
    (ha : a.isFor token = false) : Alike token (r.act oracle s a) s' := by
  cases a with
  | clock t => cases ha
  | purge => exact h.purge
  | arrive hs => exact h.arrive_other ha
  | wake token' place => exact h.wake_other (beq_eq_false_iff_ne.mp ha) r oracle place

theorem start (token : String) (m : Moment) :
    Alike token ⟨m, .empty, [], []⟩ ⟨m, .empty, [], []⟩ where
  now := rfl
  known := .refl _ _ _
  waiting := rfl
  past := rfl
  nodup := List.nodup_nil
  sound _ hw := nomatch hw

theorem foldl_act (h : Alike token s s') (r : Remote) (oracle : Oracle) (acts : List Act) :
    Alike token (acts.foldl (r.act oracle) s)
      ((acts.filter (·.isFor token)).foldl (r.act oracle) s') :=
  foldl_filter (fun h ha => h.act r oracle ha) (fun h ha => h.act_other r oracle ha) h acts

theorem inquiry?_eq (h : Alike token s s') {a : Act} (ha : a.isFor token = true) :
    s'.inquiry? a = s.inquiry? a := by
  cases a with
  | arrive hs =>
    have hopening : opening s.now hs s'.decisions = opening s.now hs s.decisions :=
      (opening_congr (Headers.carries_iff.mp ha) h.known.get?_eq).symm
    rw [State.inquiry?, State.inquiry?, h.now, hopening]
  | _ => rfl

end Alike

/-- A call asks about its own token. -/
theorem isFor_of_inquiry? {a : Act} {token' : String} (h : s.inquiry? a = some token') :
    a.isFor token = (token' == token) := by
  cases a with
  | arrive hs =>
    have ho := opens s.now hs s.decisions
    rw [State.inquiry?] at h
    generalize opening s.now hs s.decisions = o at ho h
    cases ho with
    | asking hh hd hclaims hexp hlive =>
      cases h
      rw [Act.isFor, Headers.carries, hh, Bool.eq_iff_iff, decide_eq_true_iff, beq_iff_eq]
      exact ⟨Except.ok.inj, congrArg _⟩
    | _ => cases h
  | _ => cases h

theorem inquiries_filter (h : Alike token s s') (r : Remote) (oracle : Oracle)
    (acts : List Act) : r.inquiries oracle s' (acts.filter (·.isFor token)) =
      (r.inquiries oracle s acts).filter (·.1 == token) := by
  induction acts generalizing s s' with
  | nil => rfl
  | cons a acts ih =>
    rw [inquiries, List.filter_append]
    cases ha : a.isFor token with
    | true =>
      rw [List.filter_cons_of_pos ha, inquiries, ih (h.act r oracle ha), h.inquiry?_eq ha, h.now]
      congr 1
      cases hasked : s.inquiry? a with
      | none => rfl
      | some token' =>
        rw [isFor_of_inquiry? hasked] at ha
        simp [ha]
    | false =>
      rw [List.filter_cons_of_neg (ne_true_of_eq_false ha), ih (h.act_other r oracle ha)]
      cases hasked : s.inquiry? a with
      | none => rfl
      | some token' =>
        rw [isFor_of_inquiry? hasked] at ha
        simp [ha]

/-! ## Acts and events -/

/-- A call that wakes up hears something or goes on waiting. -/
theorem wake_eq_or (r : Remote) (oracle : Oracle) (token : String) (place : Nat) (s : State) :
    s.wake r oracle token place = s ∨ ∃ i v, s.wake r oracle token place = s.hear r i v := by
  unfold State.wake
  cases hpick : pick? token place s.waiting with
  | none => exact Or.inl rfl
  | some p =>
    obtain ⟨w, rest⟩ := p
    obtain ⟨-, i, hi, hrest⟩ := pick?_eq_some hpick
    dsimp only
    cases w.heard? r oracle s.now with
    | none => exact Or.inl rfl
    | some v =>
      refine Or.inr ⟨i, v, ?_⟩
      rw [State.hear, hi, hrest]

/-- A call that wakes up in time hears what a whole call makes of the reply. -/
theorem heard?_await (r : Remote) (oracle : Oracle) (w : Waiting) :
    w.heard? r oracle (w.began.after (r.await (oracle w.token w.began)).delay) =
      some (r.await (oracle w.token w.began)).verdict := by
  have hafter (d : Duration) :
      (w.began.after d).steady.nanos = w.began.steady.nanos + d.nanos := rfl
  by_cases hdelay : (oracle w.token w.began).delay.nanos ≤ r.callTimeout.nanos
  · rw [await, if_pos hdelay]
    simp [Waiting.heard?, hafter]
  · rw [await, if_neg hdelay]
    simp [Waiting.heard?, hafter, hdelay]

/-- Any acts are a run of events, so all that is known of those holds here. -/
theorem exists_after_eq (r : Remote) (oracle : Oracle) (m : Moment) (acts : List Act) :
    ∃ es, r.afterActs oracle m acts = r.after m es := by
  induction acts using List.reverseRecOn with
  | nil => exact ⟨[], rfl⟩
  | append_singleton acts a ih =>
    obtain ⟨es, hes⟩ := ih
    have hevent (e : Event) (he : r.act oracle (r.afterActs oracle m acts) a =
        r.step (r.after m es) e) : ∃ es, r.afterActs oracle m (acts ++ [a]) = r.after m es := by
      refine ⟨es ++ [e], ?_⟩
      rw [afterActs, List.foldl_concat, after, List.foldl_concat]
      exact he
    rw [hes] at hevent
    cases a with
    | clock t => exact hevent (.clock t) rfl
    | purge => exact hevent .purge rfl
    | arrive hs => exact hevent (.arrive hs) rfl
    | wake token place =>
      rcases wake_eq_or r oracle token place (r.after m es) with hsame | ⟨i, v, hhear⟩
      · refine ⟨es, ?_⟩
        rw [afterActs, List.foldl_concat, ← afterActs, hes]
        exact hsame
      · exact hevent (.answer i v) hhear

end Remote

namespace Keyed
open Decisions
variable {token : String} {s s' : State}

def Call.report (c : Call) : Report := ⟨c.headers, c.time, c.time, c.result⟩

/-- Whether an event is left when calls for other tokens and purges are taken out. -/
def Event.isFor (token : String) : Event → Bool
  | .clock _ => true
  | .purge => false
  | .refresh _ => true
  | .call h => h.carries token

/-- What of a result is kept of the token, and for how long. -/
def kept (k : Keyed) (m : Moment) : Except Denial Claims → Option (Bool × Duration)
  | .ok claims => (claims.exp.bind (remainingLifetime m)).map (true, ·)
  | .error (.rejected _) => some (false, k.negativeTtl)
  | .error _ => none

theorem remember_eq (k : Keyed) (m : Moment) (token : String) (result : Except Denial Claims)
    (d : Decisions) : k.remember m token result d = d.keep m.steady token (k.kept m result) := by
  cases result with
  | ok claims =>
    simp only [remember, kept]
    cases claims.exp.bind (remainingLifetime m) <;> rfl
  | error e => cases e <;> rfl

/-- What a call does with its token hangs on what is known of that alone. -/
theorem exists_authenticate_eq {k : Keyed} {m : Moment} {h : Headers}
    (hh : Credential.ofHeaders h = .ok token) (d : Decisions) :
    ∃ kept, ∀ d' : Decisions, d.get? m.steady token = d'.get? m.steady token →
      k.authenticate m h d' = ((k.authenticate m h d).1, d'.keep m.steady token kept) := by
  cases hanswer : d.answer m.steady token with
  | some result =>
    refine ⟨none, fun d' hd' => ?_⟩
    simp only [authenticate, authenticateToken, hh, ← answer_congr hd', hanswer, keep]
  | none =>
    refine ⟨k.kept m (k.verify m token), fun d' hd' => ?_⟩
    simp only [authenticate, authenticateToken, hh, ← answer_congr hd', hanswer, remember_eq]

theorem decisions_call (s : State) (h : Headers) :
    (s.call h).decisions = (s.keyed.authenticate s.now h s.decisions).2 := rfl

theorem reports_call (s : State) (h : Headers) :
    (s.call h).past.map Call.report = s.past.map Call.report ++
      [⟨h, s.now, s.now, (s.keyed.authenticate s.now h s.decisions).1⟩] :=
  List.map_append

/-- A state, and the same one without other tokens and purges. -/
structure Alike (token : String) (s s' : State) : Prop where
  now : s'.now = s.now
  keyed : s'.keyed = s.keyed
  known : s.decisions.AgreeFrom s.now.steady token s'.decisions
  past : s'.past.map Call.report = Report.about token (s.past.map Call.report)
  nodup : (Assoc.keys s.decisions.entries).Nodup

namespace Alike

theorem call (h : Alike token s s') {hs : Headers} (hh : Credential.ofHeaders hs = .ok token) :
    Alike token (s.call hs) (s'.call hs) := by
  obtain ⟨now', keyed', d', past'⟩ := s'
  obtain rfl : now' = s.now := h.now
  obtain rfl : keyed' = s.keyed := h.keyed
  obtain ⟨kept, hkept⟩ :=
    exists_authenticate_eq (k := s.keyed) (m := s.now) hh s.decisions
  have hself : (s.keyed.authenticate s.now hs s.decisions).2 =
      s.decisions.keep s.now.steady token kept := congrArg Prod.snd (hkept s.decisions rfl)
  have hother := hkept d' h.known.get?_eq
  refine ⟨rfl, rfl, ?_, ?_, ?_⟩
  · rw [decisions_call, decisions_call, hself, hother]
    exact h.known.keep _ _
  · rw [reports_call, reports_call, Report.about_concat, if_pos (Headers.carries_iff.mpr hh),
      hother, h.past]
  · rw [decisions_call, hself]
    exact nodup_keep h.nodup _ _ _

theorem call_other (h : Alike token s s') {hs : Headers} (hother : hs.carries token = false) :
    Alike token (s.call hs) s' := by
  -- Whatever the call keeps is of its own token, if it has one at all.
  have hkeep : ∃ token' kept, token' ≠ token ∧
      (s.keyed.authenticate s.now hs s.decisions).2 = s.decisions.keep s.now.steady token' kept := by
    cases hh : Credential.ofHeaders hs with
    | error e =>
      obtain ⟨token', hne⟩ := exists_ne token
      exact ⟨token', none, hne, by rw [authenticate, hh]; rfl⟩
    | ok token' =>
      obtain ⟨kept, hkept⟩ :=
        exists_authenticate_eq (k := s.keyed) (m := s.now) hh s.decisions
      refine ⟨token', kept, ?_, congrArg Prod.snd (hkept s.decisions rfl)⟩
      rintro rfl
      rw [Headers.carries_iff.mpr hh] at hother
      cases hother
  obtain ⟨token', kept, hne, hafter⟩ := hkeep
  refine ⟨h.now, h.keyed, ?_, ?_, ?_⟩
  · rw [decisions_call, hafter]
    exact (agreeFrom_keep_of_ne hne _ _ _ _).trans h.known
  · rw [reports_call, Report.about_concat, hother, h.past]
    exact (List.append_nil _).symm
  · rw [decisions_call, hafter]
    exact nodup_keep h.nodup _ _ _

theorem step (h : Alike token s s') {e : Event} (he : e.isFor token = true) :
    Alike token (step s e) (step s' e) := by
  cases e with
  | clock t =>
    exact ⟨congrArg (·.tick t) h.now, h.keyed, h.known.later (s.now.steady_le_tick t), h.past,
      h.nodup⟩
  | purge => cases he
  | refresh fetched =>
    exact ⟨h.now, congrArg (fun k => (k.refresh fetched).2) h.keyed, h.known, h.past, h.nodup⟩
  | call hs => exact h.call (Headers.carries_iff.mp he)

theorem step_other (h : Alike token s s') {e : Event} (he : e.isFor token = false) :
    Alike token (Keyed.step s e) s' := by
  cases e with
  | clock t => cases he
  | purge =>
    exact ⟨h.now, h.keyed, (agreeFrom_purge h.nodup s.now.steady token).trans h.known, h.past,
      nodup_purge h.nodup s.now.steady⟩
  | refresh fetched => cases he
  | call hs => exact h.call_other he

theorem foldl_step (h : Alike token s s') (es : List Event) :
    Alike token (es.foldl Keyed.step s) ((es.filter (·.isFor token)).foldl Keyed.step s') :=
  foldl_filter (fun h he => h.step he) (fun h he => h.step_other he) h es

theorem start (token : String) (negativeTtl : Duration) (m : Moment) :
    Alike token ⟨m, ⟨none, negativeTtl⟩, .empty, []⟩ ⟨m, ⟨none, negativeTtl⟩, .empty, []⟩ where
  now := rfl
  keyed := rfl
  known := .refl _ _ _
  past := rfl
  nodup := List.nodup_nil

end Alike
end Keyed

/-- Calls for other tokens and purges make no difference to the calls for a token: without them
those begin, end and are answered the same, and the authority is asked about the token at the same
times. -/
theorem calls_independent (token : String) :
    (∀ (r : Remote) (oracle : Remote.Oracle) m acts,
      (r.afterActs oracle m (acts.filter (·.isFor token))).past.map Remote.Call.report =
          Report.about token ((r.afterActs oracle m acts).past.map Remote.Call.report) ∧
        r.inquiries oracle ⟨m, .empty, [], []⟩ (acts.filter (·.isFor token)) =
          (r.inquiries oracle ⟨m, .empty, [], []⟩ acts).filter (·.1 == token)) ∧
    ∀ negativeTtl m es,
      (Keyed.after negativeTtl m (es.filter (·.isFor token))).past.map Keyed.Call.report =
        Report.about token ((Keyed.after negativeTtl m es).past.map Keyed.Call.report) := by
  refine ⟨fun r oracle m acts => ⟨?_, ?_⟩, fun negativeTtl m es => ?_⟩
  · exact ((Remote.Alike.start token m).foldl_act r oracle acts).past
  · exact Remote.inquiries_filter (.start token m) r oracle acts
  · exact ((Keyed.Alike.start token negativeTtl m).foldl_step es).past

end Gateway
