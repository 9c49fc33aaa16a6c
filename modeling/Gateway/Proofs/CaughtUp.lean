import Gateway.Proofs.DetectorRuns

/-! # Catching up: when a table without changes on their way has the names last fetched -/
namespace Gateway

theorem Contents.exists_foldl_put_iff {m : Contents} {rs : List Route} {n : String} :
    (∃ r, rs.foldl put m n = some r) ↔ (∃ r, m n = some r) ∨ n ∈ rs.map Route.name := by
  induction rs generalizing m with
  | nil => simp
  | cons a rs ih =>
    rw [List.foldl_cons, ih, List.map_cons, List.mem_cons, ← or_assoc]
    refine or_congr_left ?_
    by_cases hn : n = a.name
    · subst hn
      simp [put]
    · simp [put, hn]

namespace Snapshot
variable {s : Snapshot} {m : Contents} {rs : List Route} {n : String}

/-- The table has the names of a list, and no others. -/
def HasNamesOf (s : Snapshot) (fetched : List Route) : Prop :=
  ∀ n, n ∈ s.routes.map Route.name ↔ n ∈ fetched.map Route.name

theorem Holds.mem_names_upsert (hs : s.Holds m) :
    n ∈ (s.apply (.upsert rs)).routes.map Route.name ↔
      n ∈ s.routes.map Route.name ∨ n ∈ rs.map Route.name := by
  rw [(hs.apply (.upsert rs)).mem_names_iff, hs.mem_names_iff]
  exact Contents.exists_foldl_put_iff

theorem hasNamesOf_replace (s : Snapshot) (rs : List Route) :
    (s.apply (.replace rs)).HasNamesOf rs := by
  intro n
  have hempty : ¬∃ r, Contents.empty n = some r := fun ⟨r, hr⟩ => nomatch hr
  rw [apply, (holds_build rs).mem_names_iff, Contents.exists_foldl_put_iff]
  exact or_iff_right hempty

theorem Holds.exists_holds_foldl_apply (hs : s.Holds m) (cs : List Change) :
    ∃ m', (cs.foldl (fun s c => s.apply c) s).Holds m' := by
  induction cs generalizing s m with
  | nil => exact ⟨m, hs⟩
  | cons c cs ih => exact ih (hs.apply c)

end Snapshot

namespace Feed
variable {fetched : List Route}

/-- The table when all that is on its way has arrived. -/
def settled (x : Feed) : Snapshot := x.queue.foldl (fun s c => s.apply c) x.table

theorem settled_of_drained {x : Feed} (h : x.queue = []) : x.settled = x.table := by
  rw [settled, h, List.foldl_nil]

theorem settled_update (x : Feed) : x.update.settled = x.settled := by
  cases hqueue : x.queue <;> simp [settled, update, hqueue]

theorem settled_foldl_updated {updates : List Step} (h : ∀ s ∈ updates, s = .updated) (x : Feed) :
    (updates.foldl step x).settled = x.settled := by
  induction updates generalizing x with
  | nil => rfl
  | cons s updates ih =>
    obtain ⟨rfl, hrest⟩ := List.forall_mem_cons.mp h
    rw [List.foldl_cons, ih hrest]
    exact settled_update x

theorem settled_tick (x : Feed) (fetched : List Route) :
    (x.tick fetched).settled =
      (x.table.diff fetched).toList.foldl (fun s c => s.apply c) x.settled := by
  rw [settled, queue_tick, table_tick, List.foldl_append, ← settled]

/-- A list that lacks a name of the table settles everything, whatever is on its way before it. -/
theorem hasNamesOf_settled_tick {x : Feed}
    (h : ∃ r ∈ x.table.routes, r.name ∉ fetched.map Route.name) :
    (x.tick fetched).settled.HasNamesOf fetched := by
  rw [settled_tick, Snapshot.diff_of_missing h]
  exact Snapshot.hasNamesOf_replace x.settled fetched

/-- Any other list adds the names of its news to those that are on their way. -/
theorem mem_names_settled_tick {x : Feed} (hx : ∃ m, x.settled.Holds m)
    (h : ∀ r ∈ x.table.routes, r.name ∈ fetched.map Route.name) (n : String) :
    n ∈ (x.tick fetched).settled.routes.map Route.name ↔
      n ∈ x.settled.routes.map Route.name ∨ n ∈ (x.table.news fetched).map Route.name := by
  obtain ⟨m, hm⟩ := hx
  rw [settled_tick, Snapshot.diff_of_covered h]
  by_cases hnews : x.table.news fetched = []
  · rw [if_pos hnews, hnews]
    simp
  · rw [if_neg hnews]
    exact hm.mem_names_upsert

theorem exists_holds_settled (ss : List Step) : ∃ m, (after ss).settled.Holds m := by
  have htable : (after ss).table =
      (empty.applied ss).foldl (fun s c => s.apply c) .empty := table_foldl_step empty ss
  obtain ⟨m, hm⟩ := Snapshot.holds_empty.exists_holds_foldl_apply (empty.applied ss)
  rw [← htable] at hm
  exact hm.exists_holds_foldl_apply (after ss).queue

/-- What a table comes to after a tick and nothing but updates, when nothing is left on its way. -/
theorem table_of_drained {before updates : List Step}
    (hupdates : ∀ s ∈ updates, s = .updated)
    (hdrained : (after (before ++ Step.ticked fetched :: updates)).queue = []) :
    (after (before ++ Step.ticked fetched :: updates)).table =
      ((after before).tick fetched).settled := by
  rw [← settled_of_drained hdrained, after_append, List.foldl_cons, settled_foldl_updated hupdates]
  rfl

/-- What is on its way to a table fits a list: the table comes to have no name that the list lacks,
and of the list's names it misses none but those of its news. -/
structure Fits (x : Feed) (fetched : List Route) : Prop where
  listed : ∀ n ∈ x.settled.routes.map Route.name, n ∈ fetched.map Route.name
  present : ∀ n ∈ fetched.map Route.name, n ∈ x.settled.routes.map Route.name ∨
    n ∈ (x.table.news fetched).map Route.name

theorem hasNamesOf_settled_tick_iff {x : Feed} (hx : ∃ m, x.settled.Holds m) :
    (x.tick fetched).settled.HasNamesOf fetched ↔
      (∃ r ∈ x.table.routes, r.name ∉ fetched.map Route.name) ∨ x.Fits fetched := by
  by_cases h : ∃ r ∈ x.table.routes, r.name ∉ fetched.map Route.name
  · exact iff_of_true (hasNamesOf_settled_tick h) (Or.inl h)
  · rw [or_iff_right h]
    push Not at h
    have hnames := mem_names_settled_tick hx h
    constructor
    · intro hcaught
      exact ⟨fun n hn => (hcaught n).mp ((hnames n).mpr (Or.inl hn)),
        fun n hn => (hnames n).mp ((hcaught n).mpr hn)⟩
    · intro hfits n
      rw [hnames]
      refine ⟨?_, hfits.present n⟩
      rintro (hn | hn)
      · exact hfits.listed n hn
      · obtain ⟨r, hr, rfl⟩ := List.mem_map.mp hn
        exact List.mem_map_of_mem ((Snapshot.mem_news_iff r).mp hr).1

/-- Nothing on its way fits every list that has the names of the table. -/
theorem fits_of_drained {x : Feed} (hx : ∃ m, x.settled.Holds m) (hdrained : x.queue = [])
    (h : ∀ r ∈ x.table.routes, r.name ∈ fetched.map Route.name) : x.Fits fetched := by
  rw [settled_of_drained hdrained] at hx
  obtain ⟨m, hm⟩ := hx
  refine ⟨?_, ?_⟩
  · rw [settled_of_drained hdrained]
    intro n hn
    obtain ⟨r, hr, rfl⟩ := List.mem_map.mp hn
    exact h r hr
  · rw [settled_of_drained hdrained]
    intro n hn
    obtain ⟨r, hr, rfl⟩ := List.mem_map.mp hn
    by_cases hnews : x.table.IsNews r
    · exact Or.inr (List.mem_map_of_mem ((Snapshot.mem_news_iff r).mpr ⟨hr, hnews⟩))
    · obtain ⟨old, hold, -⟩ : ∃ old, x.table.get? r.name = some old ∧ _ := by
        simpa [Snapshot.IsNews] using hnews
      obtain ⟨hmem, hname⟩ := hm.get?_eq_some_iff.mp hold
      exact Or.inl (hname ▸ List.mem_map_of_mem hmem)

/-- When the changes on their way have all been applied, the table has the names of the list fetched
last just if that list lacked a name of the table, so that all was replaced, or if what was then
already on its way fits it. It always has them if nothing was on its way at the time. -/
theorem caught_up_iff (before updates : List Step) (fetched : List Route)
    (hupdates : ∀ s ∈ updates, s = .updated)
    (hdrained : (after (before ++ Step.ticked fetched :: updates)).queue = []) :
    ((after (before ++ Step.ticked fetched :: updates)).table.HasNamesOf fetched ↔
      (∃ r ∈ (after before).table.routes, r.name ∉ fetched.map Route.name) ∨
        (after before).Fits fetched) ∧
    ((after before).queue = [] →
      (after (before ++ Step.ticked fetched :: updates)).table.HasNamesOf fetched) := by
  have hx := exists_holds_settled before
  rw [table_of_drained hupdates hdrained, hasNamesOf_settled_tick_iff hx]
  refine ⟨Iff.rfl, fun hqueue => ?_⟩
  by_cases h : ∀ r ∈ (after before).table.routes, r.name ∈ fetched.map Route.name
  · exact Or.inr (fits_of_drained hx hqueue h)
  · push Not at h
    exact Or.inl h

/-- A new version and a new name are on their way. -/
def underway : List Step := [.ticked [edition 1], .updated, .ticked [edition 2, web]]

/-- A list without the old name replaces all, and what arrives before it is of no consequence. -/
theorem caught_up_by_reload :
    (∀ s ∈ [Step.updated, .updated], s = .updated) ∧
      (after (underway ++ Step.ticked [web] :: [.updated, .updated])).queue = [] ∧
      (after (underway ++ Step.ticked [web] :: [.updated, .updated])).table.HasNamesOf [web] := by
  have hupdates : ∀ s ∈ [Step.updated, .updated], s = .updated := by simp
  have hdrained : (after (underway ++ Step.ticked [web] :: [.updated, .updated])).queue = [] := by
    cbv
  have hroutes : (after underway).table.routes = [edition 1] := by cbv
  refine ⟨hupdates, hdrained, (caught_up_iff _ _ _ hupdates hdrained).1.mpr (Or.inl ?_)⟩
  refine ⟨edition 1, ?_, by decide⟩
  rw [hroutes]
  exact List.mem_singleton_self _

/-- A list is fetched while the only route of the list before it is on its way, and lacks it: no
change is sent, for the table does not have the route yet, and then it comes to stay. The detector
with its updater can go through this. -/
theorem behind_though_drained :
    (after [.ticked [edition 1], .ticked [], .updated]).queue = [] ∧
      (after [.ticked [edition 1], .ticked [], .updated]).table.routes = [edition 1] ∧
      ¬(after [.ticked [edition 1], .ticked [], .updated]).table.HasNamesOf [] ∧
      ∃ es t, (Detector.State.start .empty 2 true none).run? es = some t ∧
        t.feed = after [.ticked [edition 1], .ticked [], .updated] ∧ t.position = .waiting := by
  have hroutes :
      (after [.ticked [edition 1], .ticked [], .updated]).table.routes = [edition 1] := by cbv
  refine ⟨by cbv, hroutes, fun hnames => ?_, ?_⟩
  · have hmem := (hnames "api").mp (by rw [hroutes]; exact List.mem_singleton_self _)
    cases hmem
  · exact Detector.State.exists_run?_history
      [.ticked [edition 1], .ticked [], .updated] rfl rfl (by decide)

end Feed
end Gateway
