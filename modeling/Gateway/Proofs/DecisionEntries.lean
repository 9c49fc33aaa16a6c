import Gateway.Auth.Decisions
import Gateway.Proofs.FiniteMaps

/-! # Decisions and the tokens they are about: what backs an entry, and when it answers -/
namespace Gateway

namespace Credential

/-- Headers without a token of their own are turned away for their form. -/
theorem ofHeaders_error {h : Headers} {e : Denial} (he : ofHeaders h = .error e) :
    e = .missing ∨ ∃ reason, e = .malformed reason := by
  rw [ofHeaders] at he
  split at he
  · exact Or.inl (Except.error.inj he).symm
  · split at he
    · exact Or.inr ⟨_, (Except.error.inj he).symm⟩
    · split at he
      · exact Or.inl (Except.error.inj he).symm
      · cases he

theorem claims_error {token : String} {e : Denial} (he : claims token = .error e) :
    ∃ reason, e = .malformed reason := by
  rw [claims] at he
  split at he
  · split at he
    · exact ⟨_, (Except.error.inj he).symm⟩
    · split at he
      · cases he
      · exact ⟨_, (Except.error.inj he).symm⟩
  · exact ⟨_, (Except.error.inj he).symm⟩

end Credential

theorem remainingLifetime_eq_some_iff {m : Moment} {exp : Int} {ttl : Duration} :
    remainingLifetime m exp = some ttl ↔
      (m.date.secs : Int) < exp ∧ ttl = .ofSecs (exp - m.date.secs).toNat := by
  rw [remainingLifetime]
  split_ifs with h
  · exact ⟨fun ht => ⟨h, (Option.some.inj ht).symm⟩, fun ht => congrArg some ht.2.symm⟩
  · exact ⟨(fun ht => nomatch ht), fun ht => absurd ht.1 h⟩

namespace Decisions
variable {p q : String → Decision → Prop} {d : Decisions} {now : Duration} {token : String}

/-- There is a reason for every entry, also for those that no longer count. -/
def Backed (p : String → Decision → Prop) (d : Decisions) : Prop := ∀ e ∈ d.entries, p e.1 e.2

theorem backed_empty (p : String → Decision → Prop) : Backed p empty := by
  intro e he
  cases he

theorem Backed.imp (h : d.Backed p) (hpq : ∀ token e, p token e → q token e) : d.Backed q :=
  fun e he => hpq e.1 e.2 (h e he)

theorem Backed.set (h : d.Backed p) {accepted : Bool} {ttl : Duration}
    (hnew : p token ⟨accepted, now.add ttl⟩) : (d.set now token accepted ttl).Backed p := by
  rw [Decisions.set]
  split_ifs
  · exact h
  · intro e he
    rcases Assoc.mem_set he with hold | ⟨hname, hvalue⟩
    · exact h e hold
    · rw [hname, hvalue]
      exact hnew

theorem Backed.purge (h : d.Backed p) (now : Duration) : (d.purge now).Backed p :=
  fun e he => h e (List.mem_of_mem_filter he)

/-- What gave the reasons goes on to give them when something has been added to it. -/
theorem Backed.concat {α : Type} {past : List α} {p : String → Decision → α → Prop}
    (h : d.Backed fun token e => ∃ x ∈ past, p token e x) (x : α) :
    d.Backed fun token e => ∃ y ∈ past ++ [x], p token e y :=
  h.imp fun _ _ ⟨y, hy, hp⟩ => ⟨y, List.mem_append_left [x] hy, hp⟩

/-- What is known of a token is the entry under it, while it is live. -/
theorem get?_eq_some_iff {accepted : Bool} :
    d.get? now token = some accepted ↔
      ∃ ends, Assoc.get? token d.entries = some ⟨accepted, ends⟩ ∧ now.nanos < ends.nanos := by
  rw [get?, Option.map_eq_some_iff]
  constructor
  · rintro ⟨⟨accepted, ends⟩, he, rfl⟩
    obtain ⟨hget, hlive⟩ := Option.filter_eq_some_iff.mp he
    exact ⟨ends, hget, of_decide_eq_true hlive⟩
  · rintro ⟨ends, hget, hlive⟩
    exact ⟨⟨accepted, ends⟩, Option.filter_eq_some_iff.mpr ⟨hget, decide_eq_true hlive⟩, rfl⟩

/-- A live decision has an entry with a reason behind it. -/
theorem Backed.exists_of_get? (h : d.Backed p) {accepted : Bool}
    (hd : d.get? now token = some accepted) :
    ∃ ends, Assoc.get? token d.entries = some ⟨accepted, ends⟩ ∧ now.nanos < ends.nanos ∧
      p token ⟨accepted, ends⟩ := by
  obtain ⟨ends, hget, hlive⟩ := get?_eq_some_iff.mp hd
  exact ⟨ends, hget, hlive, h _ (Assoc.mem_of_get? hget)⟩

/-- What is known of the token in some headers. -/
def known (now : Duration) (h : Headers) (d : Decisions) : Option Bool :=
  match Credential.ofHeaders h with
  | .error _ => none
  | .ok token => d.get? now token

theorem known_of_carries {h : Headers} (hh : Credential.ofHeaders h = .ok token) :
    d.known now h = d.get? now token := by
  rw [known, hh]

variable {d' : Decisions} {now' : Duration} {token' : String}

/-- From a time on two caches know the same of a token. -/
def AgreeFrom (now : Duration) (token : String) (d d' : Decisions) : Prop :=
  ∀ t : Duration, now.nanos ≤ t.nanos → d.get? t token = d'.get? t token

theorem AgreeFrom.refl (now : Duration) (token : String) (d : Decisions) :
    AgreeFrom now token d d := fun _ _ => rfl

theorem AgreeFrom.trans {e : Decisions} (h : AgreeFrom now token d d')
    (h' : AgreeFrom now token d' e) : AgreeFrom now token d e :=
  fun t ht => (h t ht).trans (h' t ht)

theorem AgreeFrom.later (h : AgreeFrom now token d d') (hle : now.nanos ≤ now'.nanos) :
    AgreeFrom now' token d d' := fun t ht => h t (Nat.le_trans hle ht)

theorem AgreeFrom.get?_eq (h : AgreeFrom now token d d') : d.get? now token = d'.get? now token :=
  h now (Nat.le_refl _)

/-- What a purge takes away does not count any more and never will again. -/
theorem agreeFrom_purge (hd : (Assoc.keys d.entries).Nodup) (now : Duration) (token : String) :
    AgreeFrom now token (d.purge now) d := by
  intro t ht
  rw [get?, get?, purge, Assoc.get?_filter hd]
  cases Assoc.get? token d.entries with
  | none => rfl
  | some e =>
    have hlive : e.isLive t = true → e.isLive now = true := by
      simp only [Decision.isLive, decide_eq_true_eq]
      exact Nat.lt_of_le_of_lt ht
    by_cases hnow : e.isLive now = true
    · simp [Option.filter, hnow]
    · have hlater : ¬e.isLive t = true := fun h => hnow (hlive h)
      simp [Option.filter, hnow, hlater]

/-- Keeps what there is to keep of a token. -/
def keep (now : Duration) (token : String) (kept : Option (Bool × Duration)) (d : Decisions) :
    Decisions :=
  match kept with
  | some (accepted, ttl) => d.set now token accepted ttl
  | none => d

theorem agreeFrom_keep_of_ne (h : token' ≠ token) (now t : Duration)
    (kept : Option (Bool × Duration)) (d : Decisions) :
    AgreeFrom now token (d.keep t token' kept) d := by
  intro t' _
  cases kept with
  | none => rfl
  | some kept =>
    rw [keep, set]
    split_ifs
    · rfl
    · rw [get?, get?, Assoc.get?_set, if_neg h.symm]

theorem AgreeFrom.keep (h : AgreeFrom now token d d') (t : Duration)
    (kept : Option (Bool × Duration)) :
    AgreeFrom now token (d.keep t token kept) (d'.keep t token kept) := by
  cases kept with
  | none => exact h
  | some kept =>
    intro t' ht'
    rw [Decisions.keep, Decisions.keep, set, set]
    split_ifs
    · exact h t' ht'
    · rw [get?, get?, Assoc.get?_set, Assoc.get?_set, if_pos rfl, if_pos rfl]

theorem nodup_purge (hd : (Assoc.keys d.entries).Nodup) (now : Duration) :
    (Assoc.keys (d.purge now).entries).Nodup := Assoc.nodup_keys_filter hd _

theorem nodup_keep (hd : (Assoc.keys d.entries).Nodup) (now : Duration) (token : String)
    (kept : Option (Bool × Duration)) : (Assoc.keys (d.keep now token kept).entries).Nodup := by
  cases kept with
  | none => exact hd
  | some kept =>
    rw [keep, set]
    split_ifs
    · exact hd
    · exact Assoc.nodup_keys_set hd _ _

end Decisions
end Gateway
