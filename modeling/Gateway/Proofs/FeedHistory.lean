import Gateway.Detector
import Gateway.Proofs.Reconciliation
import Mathlib

/-! # Histories of a feed: changes that are found and changes that are applied, in any order -/
namespace Gateway

/-- The routes that a change brings. -/
def Change.routes : Change → List Route
  | upsert rs | replace rs => rs

theorem Operation.routes_apply (c : Change) : (apply c).routes = c.routes := by
  cases c <;> rfl

namespace Snapshot
variable {s : Snapshot} {m : Contents} {c : Change} {fetched : List Route} {r : Route}

theorem mem_of_diff (h : s.diff fetched = some c) (hr : r ∈ c.routes) : r ∈ fetched := by
  by_cases hcovered : ∀ a ∈ s.routes, a.name ∈ fetched.map Route.name
  · rw [diff_of_covered hcovered] at h
    split_ifs at h with hnews
    cases h
    exact ((mem_news_iff r).mp hr).1
  · push Not at hcovered
    rw [diff_of_missing hcovered] at h
    cases h
    exact hr

theorem Holds.apply (hs : s.Holds m) (c : Change) :
    (s.apply c).Holds ((Operation.apply c).perform m) :=
  hs.run (.apply c)

/-- A change leaves no routes but those that were there and those that it brings. -/
theorem Holds.mem_routes_apply (hs : s.Holds m) (h : r ∈ (s.apply c).routes) :
    r ∈ s.routes ∨ r ∈ c.routes := by
  rw [(hs.apply c).mem_routes_iff] at h
  rw [hs.mem_routes_iff, ← Operation.routes_apply]
  exact Operation.mem_of_has_perform h

end Snapshot

namespace Feed

/-- What can happen to a feed. -/
inductive Step
  /-- A list is fetched, compared with the table, and what comes of it sent on its way. -/
  | ticked (fetched : List Route)
  /-- The oldest change is applied. -/
  | updated
  deriving DecidableEq

def step (x : Feed) : Step → Feed
  | .ticked fetched => x.tick fetched
  | .updated => x.update

/-- The feed after a history that starts with an empty table and nothing on its way. -/
def after (ss : List Step) : Feed := ss.foldl step empty

def Step.fetched? : Step → Option (List Route)
  | ticked fetched => some fetched
  | updated => none

/-- All that was fetched in a history. -/
def fetches (ss : List Step) : List (List Route) := ss.filterMap Step.fetched?

theorem after_concat (ss : List Step) (s : Step) : after (ss ++ [s]) = (after ss).step s := by
  rw [after, List.foldl_concat, ← after]

theorem after_append (ss ts : List Step) : after (ss ++ ts) = ts.foldl step (after ss) :=
  List.foldl_append

/-! ## What is sent and what is applied -/

/-- The changes that the ticks of a history send. -/
def sent (x : Feed) : List Step → List Change
  | [] => []
  | .ticked fetched :: ss => (x.table.diff fetched).toList ++ sent (x.tick fetched) ss
  | .updated :: ss => sent x.update ss

/-- The changes that the updates of a history apply. -/
def applied (x : Feed) : List Step → List Change
  | [] => []
  | .ticked fetched :: ss => applied (x.tick fetched) ss
  | .updated :: ss => x.queue.head?.toList ++ applied x.update ss

theorem queue_tick (x : Feed) (fetched : List Route) :
    (x.tick fetched).queue = x.queue ++ (x.table.diff fetched).toList := by
  cases h : x.table.diff fetched <;> simp [tick, h]

@[simp] theorem table_tick (x : Feed) (fetched : List Route) :
    (x.tick fetched).table = x.table := by
  cases h : x.table.diff fetched <;> simp [tick, h]

theorem queue_update (x : Feed) : x.update.queue = x.queue.tail := by
  cases h : x.queue <;> simp [update, h]

theorem table_update (x : Feed) :
    x.update.table = x.queue.head?.toList.foldl (fun s c => s.apply c) x.table := by
  cases h : x.queue <;> simp [update, h]

/-- Nothing is lost on the way, nothing doubled and nothing overtaken: what was to come and what is
sent is what is applied and what is still to come. -/
theorem queue_append_sent (x : Feed) (ss : List Step) :
    x.queue ++ x.sent ss = x.applied ss ++ (ss.foldl step x).queue := by
  induction ss generalizing x with
  | nil => simp [sent, applied]
  | cons s ss ih =>
    cases s with
    | ticked fetched =>
      rw [sent, applied, ← List.append_assoc, ← queue_tick, ih]
      rfl
    | updated =>
      have hqueue : x.queue = x.queue.head?.toList ++ x.update.queue := by
        rw [queue_update]
        cases x.queue <;> rfl
      calc x.queue ++ x.sent (.updated :: ss)
          = x.queue.head?.toList ++ (x.update.queue ++ x.update.sent ss) := by
            rw [sent, ← List.append_assoc, ← hqueue]
        _ = x.applied (.updated :: ss) ++ ((.updated :: ss).foldl step x).queue := by
            rw [ih, ← List.append_assoc]
            rfl

theorem table_foldl_step (x : Feed) (ss : List Step) :
    (ss.foldl step x).table = (x.applied ss).foldl (fun s c => s.apply c) x.table := by
  induction ss generalizing x with
  | nil => rfl
  | cons s ss ih =>
    cases s with
    | ticked fetched =>
      rw [applied, ← x.table_tick fetched]
      exact ih (x.tick fetched)
    | updated =>
      rw [applied, List.foldl_append, ← table_update]
      exact ih x.update

theorem queue_replicate_updated (x : Feed) (k : Nat) :
    ((List.replicate k Step.updated).foldl step x).queue = x.queue.drop k := by
  induction k generalizing x with
  | zero => rfl
  | succ k ih =>
    rw [List.replicate_succ, List.foldl_cons, ih]
    exact (congrArg (List.drop k) x.queue_update).trans (List.drop_tail ..)

theorem sent_append (x : Feed) (ss ts : List Step) :
    x.sent (ss ++ ts) = x.sent ss ++ (ss.foldl step x).sent ts := by
  induction ss generalizing x with
  | nil => rfl
  | cons s ss ih =>
    cases s with
    | ticked fetched => simp only [List.cons_append, sent, ih, List.append_assoc]; rfl
    | updated => exact ih x.update

theorem sent_replicate_updated (x : Feed) (k : Nat) :
    x.sent (List.replicate k Step.updated) = [] := by
  induction k generalizing x with
  | zero => rfl
  | succ k ih => exact ih x.update

/-! ## Stamps that do not fall -/

/-- A name that two lists have in common is in the second with no lower stamp than in the first. -/
def NoStampFalls (before after : List Route) : Prop :=
  ∀ r ∈ before, ∀ q ∈ after, r.name = q.name → r.updatedAt ≤ q.updatedAt

instance (before after : List Route) : Decidable (NoStampFalls before after) :=
  inferInstanceAs (Decidable
    (∀ r ∈ before, ∀ q ∈ after, r.name = q.name → r.updatedAt ≤ q.updatedAt))

/-- What the table has and what is on its way there, in the order in which it arrives. -/
def layers (x : Feed) : List (List Route) := x.table.routes :: x.queue.map Change.routes

/-- A feed, with routes that are yet to be sent, in which all was fetched and what comes later has
no lower stamps, wherever it stands. -/
structure Orderly (fs : List (List Route)) (x : Feed) (incoming : List (List Route)) : Prop where
  holds : ∃ m, x.table.Holds m
  fetched : ∀ layer ∈ x.layers ++ incoming, ∀ r ∈ layer, ∃ f ∈ fs, r ∈ f
  rising : (x.layers ++ incoming).Pairwise NoStampFalls

namespace Orderly
variable {fs incoming : List (List Route)} {x : Feed} {f : List Route} {c : Change}

theorem empty : Orderly [] .empty [] where
  holds := ⟨_, Snapshot.holds_empty⟩
  fetched := by
    intro layer hlayer r hr
    rw [List.mem_singleton.mp hlayer] at hr
    cases (Snapshot.holds_empty.mem_routes_iff r).mp hr
  rising := List.pairwise_singleton _ _

/-- Routes that are not sent after all leave nothing behind. -/
theorem discard (h : x.Orderly fs incoming) : x.Orderly fs [] where
  holds := h.holds
  fetched := fun layer hlayer => h.fetched layer (by simpa using Or.inl (by simpa using hlayer))
  rising := by
    rw [List.append_nil]
    exact (List.pairwise_append.mp h.rising).1

theorem fetch (h : x.Orderly fs []) (hf : ∀ g ∈ fs, NoStampFalls g f) :
    x.Orderly (fs ++ [f]) [f] where
  holds := h.holds
  fetched := by
    intro layer hlayer r hr
    rcases List.mem_append.mp hlayer with hlayer | hlayer
    · obtain ⟨g, hg, hrg⟩ := h.fetched layer (by simpa using hlayer) r hr
      exact ⟨g, List.mem_append_left _ hg, hrg⟩
    · rw [List.mem_singleton.mp hlayer] at hr
      exact ⟨f, List.mem_append_right _ (List.mem_singleton_self f), hr⟩
  rising := by
    refine List.pairwise_append.mpr ⟨by simpa using h.rising, List.pairwise_singleton _ _, ?_⟩
    intro layer hlayer last hlast r hr
    rw [List.mem_singleton.mp hlast]
    obtain ⟨g, hg, hrg⟩ := h.fetched layer (by simpa using hlayer) r hr
    exact hf g hg r hrg

theorem compare (h : x.Orderly fs [f]) (hc : ∀ r ∈ c.routes, r ∈ f) :
    x.Orderly fs [c.routes] where
  holds := h.holds
  fetched := by
    intro layer hlayer r hr
    rcases List.mem_append.mp hlayer with hlayer | hlayer
    · exact h.fetched layer (List.mem_append_left _ hlayer) r hr
    · rw [List.mem_singleton.mp hlayer] at hr
      exact h.fetched f (List.mem_append_right _ (List.mem_singleton_self f)) r (hc r hr)
  rising := by
    obtain ⟨hlayers, -, hlast⟩ := List.pairwise_append.mp h.rising
    refine List.pairwise_append.mpr ⟨hlayers, List.pairwise_singleton _ _, ?_⟩
    intro layer hlayer last hcs r hr q hq
    rw [List.mem_singleton.mp hcs] at hq
    exact hlast layer hlayer f (List.mem_singleton_self f) r hr q (hc q hq)

/-- What is sent becomes the last layer of those on their way. -/
theorem send (h : x.Orderly fs [c.routes]) : Orderly fs ⟨x.table, x.queue ++ [c]⟩ [] := by
  have hlayers : layers ⟨x.table, x.queue ++ [c]⟩ ++ [] = x.layers ++ [c.routes] := by
    simp [layers]
  refine ⟨h.holds, ?_, ?_⟩
  · rw [hlayers]
    exact h.fetched
  · rw [hlayers]
    exact h.rising

theorem tick (h : x.Orderly fs []) (hf : ∀ g ∈ fs, NoStampFalls g f) :
    (x.tick f).Orderly (fs ++ [f]) [] := by
  cases hdiff : x.table.diff f with
  | none =>
    rw [Feed.tick, hdiff]
    exact (h.fetch hf).discard
  | some c =>
    rw [Feed.tick, hdiff]
    exact ((h.fetch hf).compare fun r hr => Snapshot.mem_of_diff hdiff hr).send

/-- An update makes one layer of the first two. -/
theorem update (h : x.Orderly fs incoming) : x.update.Orderly fs incoming := by
  cases hqueue : x.queue with
  | nil =>
    have hx : x.update = x := by rw [Feed.update, hqueue]
    rw [hx]
    exact h
  | cons c cs =>
    obtain ⟨m, hm⟩ := h.holds
    have hx : x.update = ⟨x.table.apply c, cs⟩ := by rw [Feed.update, hqueue]
    have hlayers : x.layers = x.table.routes :: c.routes :: cs.map Change.routes := by
      rw [layers, hqueue, List.map_cons]
    have hfetched := h.fetched
    have hrising := h.rising
    rw [hlayers] at hfetched hrising
    obtain ⟨htable, hrest⟩ := List.pairwise_cons.mp hrising
    obtain ⟨hc, hcs⟩ := List.pairwise_cons.mp hrest
    rw [hx]
    refine ⟨⟨_, hm.apply c⟩, ?_, List.pairwise_cons.mpr ⟨?_, hcs⟩⟩
    · intro layer hlayer r hr
      rcases List.mem_cons.mp hlayer with rfl | hlayer
      · rcases hm.mem_routes_apply hr with hr | hr
        · exact hfetched _ (by simp) r hr
        · exact hfetched _ (by simp) r hr
      · exact hfetched layer (List.mem_cons_of_mem _ (List.mem_cons_of_mem _ hlayer)) r hr
    · intro layer hlayer r hr
      rcases hm.mem_routes_apply hr with hr | hr
      · exact htable layer (List.mem_cons_of_mem _ hlayer) r hr
      · exact hc layer hlayer r hr

/-- The oldest change brings no lower stamp for a name than the table has. -/
theorem le_of_update (h : x.Orderly fs incoming) {n : String} {r q : Route}
    (hr : x.table.get? n = some r) (hq : x.update.table.get? n = some q) :
    r.updatedAt ≤ q.updatedAt := by
  cases hqueue : x.queue with
  | nil =>
    rw [Feed.update, hqueue, hr] at hq
    cases hq
    exact le_rfl
  | cons c cs =>
    obtain ⟨m, hm⟩ := h.holds
    rw [Feed.update, hqueue] at hq
    obtain ⟨hrmem, rfl⟩ := hm.get?_eq_some_iff.mp hr
    obtain ⟨hqmem, hname⟩ := (hm.apply c).get?_eq_some_iff.mp hq
    rcases hm.mem_routes_apply hqmem with hold | hnew
    · have hget := (hm.has_iff q).mp ((hm.mem_routes_iff q).mp hold)
      rw [hname, hr] at hget
      cases hget
      exact le_rfl
    · have hrising := h.rising
      rw [layers, hqueue] at hrising
      exact (List.pairwise_cons.mp hrising).1 c.routes (by simp) r hrmem q hnew hname.symm

end Orderly

theorem fetches_concat (ss : List Step) (s : Step) :
    fetches (ss ++ [s]) = fetches ss ++ s.fetched?.toList := by
  rw [fetches, List.filterMap_append, ← fetches]
  cases s <;> rfl

theorem orderly_after {ss : List Step} (h : (fetches ss).Pairwise NoStampFalls) :
    (after ss).Orderly (fetches ss) [] := by
  induction ss using List.reverseRecOn with
  | nil => exact Orderly.empty
  | append_singleton ss s ih =>
    rw [fetches_concat] at h ⊢
    obtain ⟨hss, -, hlast⟩ := List.pairwise_append.mp h
    rw [after_concat]
    cases s with
    | ticked f => exact (ih hss).tick fun g hg => hlast g hg f (List.mem_singleton_self f)
    | updated =>
      rw [Step.fetched?, Option.toList_none, List.append_nil]
      exact (ih hss).update

/-- As long as no name is fetched with a lower stamp than before, no update lowers the stamp of a
name, although changes are computed against tables that others are about to change. Every route of
the table was fetched. The changes that were sent are applied once each and in their order, and when
nothing more is sent, as many updates as changes are on their way see to the last of them. -/
theorem versions_rise (ss : List Step) (h : (fetches ss).Pairwise NoStampFalls) :
    (∀ earlier later, ss = earlier ++ Step.updated :: later → ∀ n r q,
      (after earlier).table.get? n = some r →
        (after (earlier ++ [Step.updated])).table.get? n = some q → r.updatedAt ≤ q.updatedAt) ∧
    (∀ r ∈ (after ss).table.routes, ∃ f ∈ fetches ss, r ∈ f) ∧
    empty.sent ss = empty.applied ss ++ (after ss).queue ∧
    (after ss).table = (empty.applied ss).foldl (fun s c => s.apply c) .empty ∧
    ∀ k, (after ss).queue.length ≤ k →
      (after (ss ++ List.replicate k Step.updated)).queue = [] ∧
        empty.applied (ss ++ List.replicate k Step.updated) = empty.sent ss ∧
        (after (ss ++ List.replicate k Step.updated)).table =
          (empty.sent ss).foldl (fun s c => s.apply c) .empty := by
  refine ⟨?_, ?_, queue_append_sent empty ss, table_foldl_step empty ss, ?_⟩
  · rintro earlier later rfl n r q hr hq
    have hearlier : (fetches earlier).Pairwise NoStampFalls := by
      rw [fetches, List.filterMap_append] at h
      exact (List.pairwise_append.mp h).1
    rw [after_concat] at hq
    exact (orderly_after hearlier).le_of_update hr hq
  · exact (orderly_after h).fetched _ (by simp [layers])
  · intro k hk
    have hqueue : (after (ss ++ List.replicate k Step.updated)).queue = [] := by
      rw [after_append, queue_replicate_updated, List.drop_eq_nil_iff]
      exact hk
    have happlied : empty.applied (ss ++ List.replicate k Step.updated) = empty.sent ss := by
      have hsent := queue_append_sent empty (ss ++ List.replicate k Step.updated)
      rw [← after, hqueue, List.append_nil, sent_append, sent_replicate_updated,
        List.append_nil] at hsent
      exact hsent.symm
    refine ⟨hqueue, happlied, ?_⟩
    rw [← happlied]
    exact table_foldl_step empty _

/-- A version of a route. -/
def edition (n : Int) : Route :=
  { Route.plain "api" ⟨none, some "/api", none, none⟩ with updatedAt := n }

def web : Route := .plain "web" ⟨none, some "/web", none, none⟩

/-- Two versions on their way at once, and a list without the name before the second has arrived. -/
def detour : List Step :=
  [.ticked [edition 1], .ticked [edition 2], .updated, .ticked [web], .updated, .updated,
    .ticked [edition 2, web]]

/-- The name that was dropped for a list comes back with the version that it had. -/
theorem versions_rise_detour :
    (fetches detour).Pairwise NoStampFalls ∧
      empty.sent detour =
        [.upsert [edition 1], .upsert [edition 2], .replace [web], .upsert [edition 2]] ∧
      empty.applied (detour ++ [Step.updated]) = empty.sent detour := by
  have h : (fetches detour).Pairwise NoStampFalls := by decide
  obtain ⟨-, -, -, -, hdrain⟩ := versions_rise detour h
  exact ⟨h, by cbv, (hdrain 1 (by cbv)).2.1⟩

end Feed
end Gateway
