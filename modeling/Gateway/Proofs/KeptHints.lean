import Gateway.Proofs.DetectorRuns

/-! # Kept hints: a hint stays in its place until the source is asked again -/
namespace Gateway

namespace Mailbox
variable {m : Mailbox}

theorem isOpen_post (m : Mailbox) : m.post.isOpen = m.isOpen := by
  rw [post]
  split_ifs <;> rfl

theorem capacity_post (m : Mailbox) : m.post.capacity = m.capacity := by
  rw [post]
  split_ifs <;> rfl

theorem pending_le_post (m : Mailbox) : m.pending ≤ m.post.pending := by
  rw [post]
  split_ifs
  · exact Nat.le_succ _
  · exact Nat.le_refl _

/-- A hint that finds no room finds another hint. -/
theorem pending_post_pos (hopen : m.isOpen = true) (hcapacity : 0 < m.capacity) :
    0 < m.post.pending := by
  rw [post, hopen, Bool.true_and]
  split_ifs with hroom
  · exact Nat.succ_pos _
  · rw [decide_eq_true_eq] at hroom
    omega

end Mailbox

namespace Detector

/-- What the detector does itself; the rest is done by others meanwhile. -/
def Event.isOwn : Event → Bool
  | posted | closed | updated => false
  | _ => true

namespace State
variable {s t : State} {e : Event} {es : List Event}

/-- What an event does to the hints. -/
inductive Hears (s : State) : Event → State → Prop
  | leaves {t : State} (hhints : t.hints = s.hints.map Mailbox.post) : Hears s .posted t
  | closes {t : State} (hhints : t.hints = s.hints.map Mailbox.close) : Hears s .closed t
  | takes {m : Mailbox} {t : State} (hbefore : s.hints = some m) (hhints : t.hints = some m.take)
      (hroused : t.position = .roused) : Hears s .hinted t
  | ends {m : Mailbox} {t : State} (hbefore : s.hints = some m) (hnone : m.pending = 0)
      (hclosed : m.isOpen = false) : Hears s .deafened t
  | keeps {e : Event} {t : State} (hhints : t.hints = s.hints) : Hears s e t

theorem hears_of_step? (h : s.step? e = some t) : s.Hears e t := by
  obtain ⟨position, feed, capacity, received, hints, fetches⟩ := s
  cases e with
  | posted =>
    cases h
    exact .leaves rfl
  | closed =>
    cases h
    exact .closes rfl
  | hinted =>
    cases position <;> cases hints <;> simp only [step?, reduceCtorEq] at h
    split_ifs at h
    cases h
    exact .takes rfl rfl rfl
  | deafened =>
    cases position <;> cases hints <;> simp only [step?, reduceCtorEq] at h
    split_ifs at h with hdeaf
    rw [Bool.and_eq_true, decide_eq_true_eq, Bool.not_eq_true'] at hdeaf
    exact .ends rfl hdeaf.1 hdeaf.2
  | ticked | began | updated =>
    simp only [step?] at h
    split_ifs at h
    cases h
    exact .keeps rfl
  | fetched result =>
    simp only [step?] at h
    split_ifs at h
    cases result <;> cases h <;> exact .keeps rfl
  | compared =>
    cases position <;> simp only [step?, reduceCtorEq] at h
    split at h <;> cases h <;> exact .keeps rfl
  | sent | refused =>
    cases position <;> simp only [step?, reduceCtorEq] at h
    split_ifs at h
    cases h
    exact .keeps rfl
  | cancelled =>
    cases position <;> simp only [step?, reduceCtorEq] at h
    all_goals
      cases h
      exact .keeps rfl

/-- The detector listens to someone who can leave hints, and there is room for one at least. -/
def Listens (s : State) : Prop := ∃ m, s.hints = some m ∧ m.isOpen = true ∧ 0 < m.capacity

theorem Listens.step (h : s.Listens) (he : e ≠ .closed) (hstep : s.step? e = some t) :
    t.Listens := by
  obtain ⟨m, hm, hopen, hcapacity⟩ := h
  cases hears_of_step? hstep with
  | leaves hhints =>
    rw [hm] at hhints
    exact ⟨m.post, hhints, by rw [m.isOpen_post, hopen], by rwa [m.capacity_post]⟩
  | closes => exact absurd rfl he
  | takes hbefore hhints =>
    cases hm.symm.trans hbefore
    exact ⟨m.take, hhints, hopen, hcapacity⟩
  | ends hbefore hnone hclosed =>
    cases hm.symm.trans hbefore
    exact nomatch hopen.symm.trans hclosed
  | keeps hhints => exact ⟨m, hhints.trans hm, hopen, hcapacity⟩

/-- As long as there is someone, the detector does not stop to listen. -/
theorem Listens.run (h : s.Listens) (hes : .closed ∉ es) (hrun : s.run? es = some t) :
    t.Listens := by
  induction es generalizing s with
  | nil =>
    cases hrun
    exact h
  | cons e es ih =>
    rw [List.mem_cons, not_or] at hes
    rw [run?_cons] at hrun
    obtain ⟨u, hu, hrun⟩ := Option.bind_eq_some_iff.mp hrun
    exact ih (h.step (Ne.symm hes.1) hu) hes.2 hrun

/-- There is a hint that the detector has not taken. -/
def HasHint (s : State) : Prop := ∃ m, s.hints = some m ∧ 0 < m.pending

theorem Listens.hasHint (h : s.Listens) (hstep : s.step? .posted = some t) : t.HasHint := by
  obtain ⟨m, hm, hopen, hcapacity⟩ := h
  cases hstep
  exact ⟨m.post, by rw [hm]; rfl, Mailbox.pending_post_pos hopen hcapacity⟩

/-- A hint does not go away unless it is taken. -/
theorem HasHint.step (h : s.HasHint) (hstep : s.step? e = some t) :
    t.HasHint ∨ e = .hinted ∧ t.position = .roused := by
  obtain ⟨m, hm, hpending⟩ := h
  cases hears_of_step? hstep with
  | leaves hhints =>
    rw [hm] at hhints
    exact .inl ⟨m.post, hhints, lt_of_lt_of_le hpending m.pending_le_post⟩
  | closes hhints =>
    rw [hm] at hhints
    exact .inl ⟨m.close, hhints, hpending⟩
  | takes _ _ hroused => exact .inr ⟨rfl, hroused⟩
  | ends hbefore hnone =>
    cases hm.symm.trans hbefore
    omega
  | keeps hhints => exact .inl ⟨m, hhints.trans hm, hpending⟩

/-- A roused detector begins, and does nothing else before. -/
theorem began_or_roused (h : s.position = .roused) (hstep : s.step? e = some t) :
    e = .began ∨ e.isOwn = false ∧ t.position = .roused := by
  obtain ⟨position, feed, capacity, received, hints, fetches⟩ := s
  subst h
  cases e with
  | began => exact .inl rfl
  | posted | closed =>
    cases hstep
    exact .inr ⟨rfl, rfl⟩
  | updated =>
    simp only [step?] at hstep
    split_ifs at hstep
    cases hstep
    exact .inr ⟨rfl, rfl⟩
  | ticked | fetched | hinted | deafened | compared | sent | refused | cancelled =>
    simp [step?] at hstep

/-- The detector can begin to ask the source, and whatever others do meanwhile, that is the next
thing that it does. -/
def Begins (s : State) : Prop :=
  (∃ t, s.step? .began = some t) ∧
    ∀ es t e, s.run? es = some t → es.find? Event.isOwn = some e → e = .began

theorem began_of_find? (h : s.position = .roused) (hrun : s.run? es = some t)
    (he : es.find? Event.isOwn = some e) : e = .began := by
  induction es generalizing s with
  | nil => cases he
  | cons d es ih =>
    rw [run?_cons] at hrun
    obtain ⟨u, hu, hrun⟩ := Option.bind_eq_some_iff.mp hrun
    rcases began_or_roused h hu with rfl | ⟨hown, hroused⟩
    · cases he
      rfl
    · rw [List.find?_cons_of_neg (ne_true_of_eq_false hown)] at he
      exact ih hroused hrun he

theorem begins_of_roused (h : s.position = .roused) : s.Begins :=
  ⟨⟨_, if_pos h⟩, fun _ _ _ hrun he => began_of_find? h hrun he⟩

/-- Until the source is asked again, a hint is there or has roused the detector. -/
theorem HasHint.run (h : s.HasHint) (hes : .began ∉ es) (hrun : s.run? es = some t) :
    t.HasHint ∨ .hinted ∈ es ∧ t.position = .roused := by
  induction es using List.reverseRecOn generalizing t with
  | nil =>
    cases hrun
    exact .inl h
  | append_singleton es e ih =>
    rw [run?_append] at hrun
    obtain ⟨u, hu, hrun⟩ := Option.bind_eq_some_iff.mp hrun
    obtain ⟨v, hv, hrun⟩ := Option.bind_eq_some_iff.mp hrun
    cases hrun
    rw [List.mem_append, List.mem_singleton, not_or] at hes
    rcases ih hes.1 hu with hhint | ⟨htaken, hroused⟩
    · rcases hhint.step hv with hhint | ⟨rfl, hroused⟩
      · exact .inl hhint
      · exact .inr ⟨List.mem_append_right es (List.mem_singleton_self _), hroused⟩
    · rcases began_or_roused hroused hv with rfl | ⟨-, hroused⟩
      · exact absurd rfl hes.2
      · exact .inr ⟨List.mem_append_left _ htaken, hroused⟩

/-- No hint is lost, also where there is room for one only and the rest are dropped: after one was
left, and as long as the source was not asked since, either a hint is there, or the detector has
taken one and asks the source next. Once the hints are closed there is nobody to leave one. -/
theorem hint_kept {table : Snapshot} {capacity : Nat} {received : Bool} {before after : List Event}
    (hrun : (start table capacity received (some (Mailbox.empty 1))).run?
      (before ++ .posted :: after) = some s)
    (hopen : .closed ∉ before) (hsince : .began ∉ after) :
    (∃ m, s.hints = some m ∧ 0 < m.pending) ∨ .hinted ∈ after ∧ s.Begins := by
  have hstart : (start table capacity received (some (Mailbox.empty 1))).Listens :=
    ⟨_, rfl, rfl, Nat.one_pos⟩
  rw [run?_append] at hrun
  obtain ⟨u, hu, hrun⟩ := Option.bind_eq_some_iff.mp hrun
  rw [run?_cons] at hrun
  obtain ⟨v, hv, hrun⟩ := Option.bind_eq_some_iff.mp hrun
  have hhint := (hstart.run hopen hu).hasHint hv
  exact (hhint.run hsince hrun).imp_right fun ⟨htaken, hroused⟩ => ⟨htaken, begins_of_roused hroused⟩

/-- A detector whose fetch failed, with hints left during the fetch and one of them taken. -/
def rousedAgain : State := ⟨.roused, ⟨.empty, []⟩, 1, true, some ⟨0, 1, true⟩, 1⟩

theorem run?_rousedAgain : (start .empty 1 true (some (Mailbox.empty 1))).run?
    ([.ticked, .began, .posted] ++ .posted :: [.posted, .fetched (.error (.io "")), .hinted]) =
      some rousedAgain := rfl

/-- The other hints found no room, and still the source is asked next. -/
theorem begins_rousedAgain : rousedAgain.hints = some ⟨0, 1, true⟩ ∧ rousedAgain.Begins := by
  refine ⟨rfl, ?_⟩
  rcases hint_kept run?_rousedAgain (by simp) (by simp) with ⟨m, hm, hpending⟩ | ⟨-, hbegins⟩
  · cases hm
    cases hpending
  · exact hbegins

end State
end Detector
end Gateway
