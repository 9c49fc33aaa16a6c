import Gateway.Proofs.DecisionEntries
import Gateway.Proofs.Timelines
import Mathlib.Data.Finset.Dedup
import Mathlib.Data.Finset.Card

/-! # Decision times: a cache against the history of its uses

A decision that no longer counts stays in the cache until something else takes its place or a purge
finds it. From outside this cannot be seen: what is answered is what the last decision kept about
the token says, as long as it has time left. -/
namespace Gateway

/-- A use of a cache, or the time between two of them. -/
inductive Usage
  | set (token : String) (accepted : Bool) (ttl : Duration)
  | get (token : String)
  | purge
  | pass (span : Duration)
  deriving DecidableEq, Repr

namespace Usage
variable {us earlier : List Usage} {u : Usage} {token : String} {accepted : Bool} {ttl : Duration}

/-- Whether a decision about the token is kept, for however short a time. -/
def keeps (token : String) : Usage → Bool
  | set t _ ttl => t == token && !ttl.isZero
  | _ => false

/-- Which decision about a token was the last to be kept, for how long, and what came before. -/
structure LastKept (us : List Usage) (token : String) (accepted : Bool) (ttl : Duration)
    (earlier : List Usage) : Prop where
  lasts : ttl.isZero = false
  split : ∃ later, us = earlier ++ set token accepted ttl :: later ∧
    ∀ u ∈ later, u.keeps token = false

theorem not_lastKept_nil : ¬LastKept [] token accepted ttl earlier := by
  rintro ⟨-, later, hsplit, -⟩
  cases earlier <;> cases hsplit

/-- A use that keeps nothing about the token leaves the last one where it is. -/
theorem lastKept_concat_iff_of_not_keeps (hu : u.keeps token = false) :
    LastKept (us ++ [u]) token accepted ttl earlier ↔ LastKept us token accepted ttl earlier := by
  constructor
  · rintro ⟨hlasts, later, hsplit, hlater⟩
    obtain ⟨-, rfl, -⟩ | ⟨between, rfl, hus⟩ := concat_eq_append_cons hsplit
    · simp [keeps, hlasts] at hu
    · exact ⟨hlasts, between, hus, (List.forall_mem_append.mp hlater).1⟩
  · rintro ⟨hlasts, later, rfl, hlater⟩
    refine ⟨hlasts, later ++ [u], by simp, ?_⟩
    exact List.forall_mem_append.mpr ⟨hlater, List.forall_mem_singleton.mpr hu⟩

theorem lastKept_concat_set_iff (hlasts : ttl.isZero = false) {accepted' : Bool} {ttl' : Duration} :
    LastKept (us ++ [set token accepted ttl]) token accepted' ttl' earlier ↔
      accepted' = accepted ∧ ttl' = ttl ∧ earlier = us := by
  constructor
  · rintro ⟨-, later, hsplit, hlater⟩
    obtain ⟨rfl, hlast, -⟩ | ⟨between, rfl, -⟩ := concat_eq_append_cons hsplit
    · cases hlast
      exact ⟨rfl, rfl, rfl⟩
    · have hkeeps := hlater _ List.mem_concat_self
      simp [keeps, hlasts] at hkeeps
  · rintro ⟨rfl, rfl, rfl⟩
    exact ⟨hlasts, [], rfl, fun _ hu => nomatch hu⟩

end Usage

/-- A cache at a time, with the answers it has given and what its purges have counted. -/
structure Cache where
  now : Duration
  decisions : Decisions
  answers : List (Option Bool)
  counts : List Nat
  deriving DecidableEq, Repr

namespace Cache
variable {c c' : Cache} {u : Usage} {token : String}

def fresh (now : Duration) : Cache := ⟨now, .empty, [], []⟩

/-- What is answered about a token. -/
def known (token : String) (c : Cache) : Option Bool := c.decisions.get? c.now token

/-- A purge counts what it leaves. -/
def use (c : Cache) : Usage → Cache
  | .set token accepted ttl => { c with decisions := c.decisions.set c.now token accepted ttl }
  | .get token => { c with answers := c.answers ++ [c.known token] }
  | .purge =>
    let decisions := c.decisions.purge c.now
    { c with decisions, counts := c.counts ++ [decisions.size] }
  | .pass span => { c with now := c.now.add span }

/-- The cache after some uses, empty at first. -/
def after (start : Duration) (us : List Usage) : Cache := us.foldl use (fresh start)

theorem after_concat (start : Duration) (us : List Usage) (u : Usage) :
    after start (us ++ [u]) = (after start us).use u := List.foldl_concat ..

/-- Each token has one entry at most. -/
def Lawful (c : Cache) : Prop := (Assoc.keys c.decisions.entries).Nodup

theorem Lawful.use (h : c.Lawful) (u : Usage) : (c.use u).Lawful := by
  cases u with
  | set token accepted ttl => exact Decisions.nodup_keep h c.now token (some (accepted, ttl))
  | get token => exact h
  | purge => exact Decisions.nodup_purge h c.now
  | pass span => exact h

theorem lawful_after (start : Duration) (us : List Usage) : (after start us).Lawful := by
  induction us using List.reverseRecOn with
  | nil => exact List.nodup_nil
  | append_singleton us u ih =>
    rw [after_concat]
    exact ih.use u

/-! ## The last decision about a token -/

theorem now_le_use (c : Cache) (u : Usage) : c.now.nanos ≤ (c.use u).now.nanos := by
  cases u with
  | pass span => exact Nat.le_add_right _ _
  | _ => exact Nat.le_refl _

/-- From its time on, a use that keeps nothing about a token does not change what is known of it. -/
theorem agreeFrom_use (h : c.Lawful) (hu : u.keeps token = false) :
    Decisions.AgreeFrom c.now token (c.use u).decisions c.decisions := by
  cases u with
  | set t accepted ttl =>
    by_cases ht : t = token
    · have hzero : ttl.isZero = true := by
        rw [Usage.keeps, ht] at hu
        simpa using hu
      rw [use, Decisions.set, if_pos hzero]
      exact .refl _ _ _
    · exact Decisions.agreeFrom_keep_of_ne ht c.now c.now (some (accepted, ttl)) _
  | get t => exact .refl _ _ _
  | purge => exact Decisions.agreeFrom_purge h c.now token
  | pass span => exact .refl _ _ _

/-- A decision that is kept counts from then on until its time is over. -/
theorem get?_use_set {ttl : Duration} (hlasts : ttl.isZero = false) (c : Cache) (token : String)
    (accepted : Bool) (t : Duration) (a : Bool) :
    (c.use (.set token accepted ttl)).decisions.get? t token = some a ↔
      a = accepted ∧ t.nanos < (c.now.add ttl).nanos := by
  rw [use, Decisions.set, if_neg (ne_true_of_eq_false hlasts), Decisions.get?_eq_some_iff,
    Assoc.get?_set_self]
  constructor
  · rintro ⟨ends, hentry, hlive⟩
    cases hentry
    exact ⟨rfl, hlive⟩
  · rintro ⟨rfl, hlive⟩
    exact ⟨_, rfl, hlive⟩

/-- Not only now but at all times to come, the last decision kept about a token is what is known of
it, until its time is over. -/
theorem get?_after (start : Duration) (us : List Usage) (token : String) (accepted : Bool)
    (t : Duration) (ht : (after start us).now.nanos ≤ t.nanos) :
    (after start us).decisions.get? t token = some accepted ↔
      ∃ ttl earlier, Usage.LastKept us token accepted ttl earlier ∧
        t.nanos < ((after start earlier).now.add ttl).nanos := by
  induction us using List.reverseRecOn with
  | nil =>
    constructor
    · intro h
      cases h
    · rintro ⟨ttl, earlier, hlast, -⟩
      exact absurd hlast Usage.not_lastKept_nil
  | append_singleton us u ih =>
    rw [after_concat] at ht ⊢
    have hnow := (now_le_use _ _).trans ht
    -- Where nothing is kept, both sides stay as they are, whatever has become of the entries.
    cases hu : u.keeps token with
    | false =>
      rw [agreeFrom_use (lawful_after start us) hu t hnow, ih hnow]
      simp only [Usage.lastKept_concat_iff_of_not_keeps hu]
    | true =>
      cases u with
      | set token' accepted' ttl =>
        obtain ⟨rfl, hlasts⟩ : token' = token ∧ ttl.isZero = false := by
          simpa [Usage.keeps] using hu
        rw [get?_use_set hlasts]
        simp only [Usage.lastKept_concat_set_iff hlasts]
        constructor
        · rintro ⟨rfl, hlive⟩
          exact ⟨ttl, us, ⟨rfl, rfl, rfl⟩, hlive⟩
        · rintro ⟨_, _, ⟨rfl, rfl, rfl⟩, hlive⟩
          exact ⟨rfl, hlive⟩
      | _ => cases hu

/-! ## Purges -/

/-- Two caches that have answered the same, and will go on to do so if they are used the same. -/
structure Alike (c c' : Cache) : Prop where
  now : c.now = c'.now
  answers : c.answers = c'.answers
  agree : ∀ token, Decisions.AgreeFrom c.now token c.decisions c'.decisions
  lawful : c.Lawful
  lawful' : c'.Lawful

theorem Alike.use (h : Alike c c') (u : Usage) : Alike (c.use u) (c'.use u) := by
  refine ⟨?_, ?_, fun token => ?_, h.lawful.use u, h.lawful'.use u⟩
  · cases u <;> simp [Cache.use, h.now]
  · cases u with
    | get token =>
      have hknown : c.known token = c'.known token := by
        rw [known, known, (h.agree token).get?_eq, h.now]
      simp [Cache.use, h.answers, hknown]
    | _ => exact h.answers
  · cases hu : u.keeps token with
    | false =>
      have hc := (agreeFrom_use h.lawful hu).later (now_le_use c u)
      have hc' := (agreeFrom_use h.lawful' hu).later (h.now ▸ now_le_use c u)
      exact hc.trans (((h.agree token).later (now_le_use c u)).trans fun t ht => (hc' t ht).symm)
    | true =>
      cases u with
      | set token' accepted ttl =>
        obtain ⟨rfl, -⟩ : token' = token ∧ ttl.isZero = false := by simpa [Usage.keeps] using hu
        rw [Cache.use, Cache.use, ← h.now]
        exact (h.agree token').keep c.now (some (accepted, ttl))
      | _ => cases hu

theorem Alike.purge (h : Alike c c') : Alike (c.use .purge) c' :=
  ⟨h.now, h.answers,
    fun token => (Decisions.agreeFrom_purge h.lawful c.now token).trans (h.agree token),
    h.lawful.use .purge, h.lawful'⟩

/-- Beside a run, the same run without its purges. -/
theorem alike_filter (start : Duration) (us : List Usage) :
    Alike (after start us) (after start (us.filter (· ≠ .purge))) := by
  refine foldl_filter (fun h _ => h.use _) (fun h hu => ?_) ?_ us
  · obtain rfl := of_not_not (of_decide_eq_false hu)
    exact h.purge
  · have hfresh : (fresh start).Lawful := List.nodup_nil
    exact ⟨rfl, rfl, fun token => .refl _ _ _, hfresh, hfresh⟩

/-- A token has an entry after a purge when something is known of it. -/
theorem mem_keys_purge_iff (h : c.Lawful) :
    token ∈ Assoc.keys (c.use .purge).decisions.entries ↔ (c.known token).isSome := by
  rw [← Assoc.isSome_get?_iff, use, known, Decisions.purge, Assoc.get?_filter h, Decisions.get?,
    Option.isSome_map]

/-- After any uses, what is answered about a token is what was kept about it last, if the time for
which it was kept is not over yet. Purges are of no concern to the answers; what they count is the
tokens about which there is an answer. No token ever has two entries. -/
theorem ideal_after (start : Duration) (us : List Usage) :
    (∀ token accepted, (after start us).known token = some accepted ↔
      ∃ ttl earlier, Usage.LastKept us token accepted ttl earlier ∧
        (after start us).now.nanos < ((after start earlier).now.add ttl).nanos) ∧
    (after start us).answers = (after start (us.filter (· ≠ .purge))).answers ∧
    (∃ live : Finset String, (∀ token, token ∈ live ↔ ((after start us).known token).isSome) ∧
      ((after start us).use .purge).counts = (after start us).counts ++ [live.card]) ∧
    (Assoc.keys (after start us).decisions.entries).Nodup := by
  have hlawful := lawful_after start us
  refine ⟨fun token accepted => get?_after start us token accepted _ (Nat.le_refl _),
    (alike_filter start us).answers, ?_, hlawful⟩
  refine ⟨(Assoc.keys ((after start us).use .purge).decisions.entries).toFinset, fun token => ?_, ?_⟩
  · rw [List.mem_toFinset, mem_keys_purge_iff hlawful]
  · rw [List.toFinset_card_of_nodup (hlawful.use .purge), Assoc.keys, List.length_map]
    rfl

/-- At its end a decision is no longer an answer, while its entry is still there. -/
example :
    let c := after .zero [.set "token" true ⟨5⟩, .pass ⟨4⟩, .get "token", .pass ⟨1⟩, .get "token"]
    c.answers = [some true, none] ∧ c.decisions.size = 1 := by decide

end Cache
end Gateway
