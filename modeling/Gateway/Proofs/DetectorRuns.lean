import Gateway.Proofs.FeedHistory

/-! # Runs of a detector: what its events do to the feed -/
namespace Gateway.Detector
open Feed

namespace Event

/-- The list that comes in with an event. -/
def fetched? : Event → Option (List Route)
  | fetched (.ok routes) => some routes
  | _ => none

end Event

/-- What a detector has in its hands: a fetched list, or the change that it found in one. -/
def Position.incoming : Position → List (List Route)
  | diffing fetched => [fetched]
  | sending c => [c.routes]
  | _ => []

namespace State
variable {s t : State} {fs : List (List Route)}

/-- The state after events, if they can happen one after the other. -/
def run? (s : State) (es : List Event) : Option State := es.foldlM step? s

theorem run?_append (s : State) (es es' : List Event) :
    s.run? (es ++ es') = (s.run? es).bind fun t => t.run? es' := List.foldlM_append

theorem run?_cons (s : State) (e : Event) (es : List Event) :
    s.run? (e :: es) = (s.step? e).bind fun t => t.run? es := rfl

/-- A round of a detector that has room for what it sends is a tick. -/
theorem exists_run?_tick (hposition : s.position = .waiting) (hreceived : s.received = true)
    (hroom : s.feed.queue.length < s.capacity) (fetched : List Route) :
    ∃ es, s.run? es = some { s with feed := s.feed.tick fetched, fetches := s.fetches + 1 } := by
  obtain ⟨position, feed, capacity, received, hints, fetches⟩ := s
  subst hposition hreceived
  cases hdiff : feed.table.diff fetched with
  | none =>
    refine ⟨[.ticked, .began, .fetched (.ok fetched), .compared], ?_⟩
    simp [run?, step?, moveTo, Feed.tick, hdiff]
  | some c =>
    refine ⟨[.ticked, .began, .fetched (.ok fetched), .compared, .sent], ?_⟩
    simp [run?, step?, moveTo, push, hasRoom, Feed.tick, hdiff, hroom]

theorem exists_run?_update (s : State) :
    ∃ es, s.run? es = some { s with feed := s.feed.update } := by
  cases hqueue : s.feed.queue with
  | nil =>
    have hfeed : s.feed.update = s.feed := by rw [Feed.update, hqueue]
    exact ⟨[], by rw [hfeed]; rfl⟩
  | cons c cs =>
    refine ⟨[.updated], ?_⟩
    simp [run?, step?, hqueue]

theorem length_queue_tick_le (x : Feed) (fetched : List Route) :
    (x.tick fetched).queue.length ≤ x.queue.length + 1 := by
  rw [queue_tick, List.length_append]
  cases x.table.diff fetched <;> simp

theorem length_queue_update_le (x : Feed) : x.update.queue.length ≤ x.queue.length := by
  rw [queue_update, List.length_tail]
  omega

/-- Every history of a feed is one that a detector with enough room can make. -/
theorem exists_run?_history (ss : List Step) (hposition : s.position = .waiting)
    (hreceived : s.received = true)
    (hroom : s.feed.queue.length + (Feed.fetches ss).length ≤ s.capacity) :
    ∃ es t, s.run? es = some t ∧ t.feed = ss.foldl Feed.step s.feed ∧ t.position = .waiting := by
  induction ss generalizing s with
  | nil => exact ⟨[], s, rfl, rfl, hposition⟩
  | cons step ss ih =>
    cases step with
    | ticked fetched =>
      have hlength : (Feed.fetches (.ticked fetched :: ss)).length =
          (Feed.fetches ss).length + 1 := rfl
      rw [hlength] at hroom
      have hqueue := length_queue_tick_le s.feed fetched
      obtain ⟨es, hes⟩ := exists_run?_tick hposition hreceived (by omega) fetched
      obtain ⟨es', t, ht, hfeed, hwaiting⟩ := ih
        (s := { s with feed := s.feed.tick fetched, fetches := s.fetches + 1 }) hposition hreceived
        (by dsimp only; omega)
      exact ⟨es ++ es', t, by rw [run?_append, hes]; exact ht, hfeed, hwaiting⟩
    | updated =>
      have hlength : (Feed.fetches (.updated :: ss)).length = (Feed.fetches ss).length := rfl
      rw [hlength] at hroom
      have hqueue := length_queue_update_le s.feed
      obtain ⟨es, hes⟩ := exists_run?_update s
      obtain ⟨es', t, ht, hfeed, hwaiting⟩ := ih (s := { s with feed := s.feed.update }) hposition
        hreceived (by dsimp only; omega)
      exact ⟨es ++ es', t, by rw [run?_append, hes]; exact ht, hfeed, hwaiting⟩

/-- What an event does to the feed and to what the detector has in its hands. -/
inductive Moves (s : State) : Event → State → Prop
  | keeps {e : Event} {t : State} (hfetched : e.fetched? = none) (hfeed : t.feed = s.feed)
      (hincoming : t.position.incoming = s.position.incoming) : Moves s e t
  | discards {e : Event} {t : State} (hfetched : e.fetched? = none) (hfeed : t.feed = s.feed)
      (hincoming : t.position.incoming = []) : Moves s e t
  | fetches {routes : List Route} {t : State} (hbefore : s.position.incoming = [])
      (hfeed : t.feed = s.feed) (hincoming : t.position.incoming = [routes]) :
      Moves s (.fetched (.ok routes)) t
  | finds {routes : List Route} {c : Change} {t : State} (hbefore : s.position.incoming = [routes])
      (hdiff : s.feed.table.diff routes = some c) (hfeed : t.feed = s.feed)
      (hincoming : t.position.incoming = [c.routes]) : Moves s .compared t
  | sends {c : Change} {t : State} (hbefore : s.position.incoming = [c.routes])
      (hfeed : t.feed = ⟨s.feed.table, s.feed.queue ++ [c]⟩)
      (hincoming : t.position.incoming = []) : Moves s .sent t
  | updates {t : State} (hfeed : t.feed = s.feed.update)
      (hincoming : t.position.incoming = s.position.incoming) : Moves s .updated t

theorem moves_of_step? {e : Event} (h : s.step? e = some t) : s.Moves e t := by
  obtain ⟨position, feed, capacity, received, hints, fetches⟩ := s
  cases e with
  | posted | closed =>
    cases h
    exact .keeps rfl rfl rfl
  | ticked | began =>
    simp only [step?] at h
    split_ifs at h with hposition
    cases hposition
    cases h
    exact .keeps rfl rfl rfl
  | hinted | deafened =>
    cases position <;> cases hints <;> simp only [step?, reduceCtorEq] at h
    split_ifs at h
    cases h
    exact .keeps rfl rfl rfl
  | fetched result =>
    simp only [step?] at h
    split_ifs at h with hposition
    cases hposition
    cases result with
    | ok routes =>
      cases h
      exact .fetches rfl rfl rfl
    | error fault =>
      cases h
      exact .keeps rfl rfl rfl
  | compared =>
    cases position <;> simp only [step?, reduceCtorEq] at h
    split at h
    next c hdiff =>
      cases h
      exact .finds rfl hdiff rfl rfl
    next hdiff =>
      cases h
      exact .discards rfl rfl rfl
  | sent =>
    cases position <;> simp only [step?, reduceCtorEq] at h
    split_ifs at h
    cases h
    exact .sends rfl rfl rfl
  | refused =>
    cases position <;> simp only [step?, reduceCtorEq] at h
    split_ifs at h
    cases h
    exact .discards rfl rfl rfl
  | cancelled =>
    cases position <;> simp only [step?, reduceCtorEq] at h
    all_goals
      cases h
      exact .discards rfl rfl rfl
  | updated =>
    simp only [step?] at h
    split_ifs at h
    cases h
    exact .updates rfl rfl

/-- A detector with a feed in order, what it has in its hands included. -/
def Orderly (fs : List (List Route)) (s : State) : Prop :=
  s.feed.Orderly fs s.position.incoming

theorem Orderly.step (h : s.Orderly fs) {e : Event}
    (hfs : (fs ++ e.fetched?.toList).Pairwise NoStampFalls) (hstep : s.step? e = some t) :
    t.Orderly (fs ++ e.fetched?.toList) := by
  rw [Orderly] at h ⊢
  cases moves_of_step? hstep with
  | keeps hfetched hfeed hincoming =>
    rw [hfetched, hfeed, hincoming, Option.toList_none, List.append_nil]
    exact h
  | discards hfetched hfeed hincoming =>
    rw [hfetched, hfeed, hincoming, Option.toList_none, List.append_nil]
    exact h.discard
  | fetches hbefore hfeed hincoming =>
    rw [hbefore] at h
    rw [hfeed, hincoming]
    obtain ⟨-, -, hlast⟩ := List.pairwise_append.mp hfs
    exact h.fetch fun g hg => hlast g hg _ (List.mem_singleton_self _)
  | finds hbefore hdiff hfeed hincoming =>
    rw [hbefore] at h
    rw [hfeed, hincoming]
    simpa [Event.fetched?] using h.compare fun r hr => Snapshot.mem_of_diff hdiff hr
  | sends hbefore hfeed hincoming =>
    rw [hbefore] at h
    rw [hfeed, hincoming]
    simpa [Event.fetched?] using h.send
  | updates hfeed hincoming =>
    rw [hfeed, hincoming]
    simpa [Event.fetched?] using h.update

theorem orderly_of_run? {es : List Event} {capacity : Nat} {received : Bool}
    {hints : Option Mailbox} (hfs : (es.filterMap Event.fetched?).Pairwise NoStampFalls)
    (hrun : (start .empty capacity received hints).run? es = some s) :
    s.Orderly (es.filterMap Event.fetched?) := by
  induction es using List.reverseRecOn generalizing s with
  | nil =>
    cases hrun
    exact Feed.Orderly.empty
  | append_singleton es e ih =>
    have hconcat : (es ++ [e]).filterMap Event.fetched? =
        es.filterMap Event.fetched? ++ e.fetched?.toList := by
      rw [List.filterMap_append]
      cases h : e.fetched? <;> simp [h]
    rw [hconcat] at hfs ⊢
    rw [run?_append] at hrun
    obtain ⟨t, ht, hstep⟩ := Option.bind_eq_some_iff.mp hrun
    obtain ⟨u, hu, hus⟩ := Option.bind_eq_some_iff.mp hstep
    cases hus
    exact (ih (List.pairwise_append.mp hfs).1 ht).step hfs hu

/-- Between a comparison and the sending of what it found others may change the table, and a
detector may be stopped with the change in its hands. Still, as long as no name is fetched with a
lower stamp than before, no update lowers a stamp, and every route of the table was fetched. -/
theorem stamps_kept {es : List Event} {capacity : Nat} {received : Bool} {hints : Option Mailbox}
    (hfs : (es.filterMap Event.fetched?).Pairwise NoStampFalls)
    (hrun : (start .empty capacity received hints).run? es = some s) :
    (∀ r ∈ s.feed.table.routes, ∃ f ∈ es.filterMap Event.fetched?, r ∈ f) ∧
      ∀ t, s.step? .updated = some t → ∀ n r q, s.feed.table.get? n = some r →
        t.feed.table.get? n = some q → r.updatedAt ≤ q.updatedAt := by
  have h := orderly_of_run? hfs hrun
  refine ⟨h.fetched _ (by simp [layers]), fun t hstep n r q hr hq => ?_⟩
  have hfeed : t.feed = s.feed.update := by
    simp only [step?] at hstep
    split_ifs at hstep
    cases hstep
    rfl
  rw [hfeed] at hq
  exact h.le_of_update hr hq

end State
end Gateway.Detector
