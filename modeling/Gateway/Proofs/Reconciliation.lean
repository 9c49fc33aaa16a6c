import Gateway.Proofs.TableHistory

/-! # Reconciliation: what one comparison with a fetched list makes of a table -/
namespace Gateway

namespace Snapshot
variable {s : Snapshot} {m : Contents} {fetched : List Route}

/-- A route is news to a table that lacks its name or has it with a lower stamp. -/
def IsNews (s : Snapshot) (r : Route) : Prop :=
  ∀ old, s.get? r.name = some old → old.updatedAt < r.updatedAt

theorem isFresh_iff (s : Snapshot) (r : Route) : s.isFresh r = true ↔ s.IsNews r := by
  rw [isFresh, IsNews]
  cases s.get? r.name with
  | none => simp
  | some old => simp

instance (s : Snapshot) (r : Route) : Decidable (s.IsNews r) :=
  decidable_of_iff (s.isFresh r = true) (isFresh_iff s r)

/-- The news of a fetched list, in its order. -/
def news (s : Snapshot) (fetched : List Route) : List Route :=
  fetched.filter fun r => decide (s.IsNews r)

theorem mem_news_iff (r : Route) : r ∈ s.news fetched ↔ r ∈ fetched ∧ s.IsNews r := by
  rw [news, List.mem_filter, decide_eq_true_eq]

theorem filter_isFresh_eq (s : Snapshot) (fetched : List Route) :
    fetched.filter s.isFresh = s.news fetched := by
  refine List.filter_congr fun r _ => ?_
  rw [Bool.eq_iff_iff, isFresh_iff, decide_eq_true_eq]

/-- One route that the list no longer has makes the list the whole table. -/
theorem diff_of_missing (h : ∃ r ∈ s.routes, r.name ∉ fetched.map Route.name) :
    s.diff fetched = some (.replace fetched) := by
  obtain ⟨r, hr, hmissing⟩ := h
  have hany : (s.routes.any fun r => !(fetched.map Route.name).contains r.name) = true :=
    List.any_eq_true.mpr ⟨r, hr, by simpa using hmissing⟩
  exact if_pos hany

theorem diff_of_covered (h : ∀ r ∈ s.routes, r.name ∈ fetched.map Route.name) :
    s.diff fetched =
      if s.news fetched = [] then none else some (.upsert (s.news fetched)) := by
  have hany : ¬(s.routes.any fun r => !(fetched.map Route.name).contains r.name) = true := by
    rw [List.any_eq_true]
    rintro ⟨r, hr, hmissing⟩
    rw [Bool.not_eq_true', List.contains_iff_mem.mpr (h r hr)] at hmissing
    cases hmissing
  rw [diff, filter_isFresh_eq]
  dsimp only
  rw [if_neg hany]
  simp only [List.isEmpty_iff]

/-- A list holds nothing new for a table when it has all names of the table and no news. -/
theorem diff_eq_none (hcovered : ∀ r ∈ s.routes, r.name ∈ fetched.map Route.name)
    (hold : ∀ r ∈ fetched, ¬s.IsNews r) : s.diff fetched = none := by
  have hnews : s.news fetched = [] :=
    List.filter_eq_nil_iff.mpr fun r hr => by simpa using hold r hr
  rw [diff_of_covered hcovered, if_pos hnews]

/-- A route that the table has already is no news to it. -/
theorem not_isNews_self {r : Route} (h : s.get? r.name = some r) : ¬s.IsNews r :=
  fun hnews => absurd (hnews r h) (lt_irrefl _)

namespace Holds

theorem mem_names_iff (h : s.Holds m) (n : String) :
    n ∈ s.routes.map Route.name ↔ ∃ r, m n = some r := by
  constructor
  · intro hn
    obtain ⟨r, hr, rfl⟩ := List.mem_map.mp hn
    exact ⟨r, (h.mem_routes_iff r).mp hr⟩
  · rintro ⟨r, hr⟩
    have hname : r.name = n := h.name_eq n r hr
    subst hname
    exact List.mem_map_of_mem ((h.mem_routes_iff r).mpr hr)

theorem get?_eq_some_iff (h : s.Holds m) {n : String} {r : Route} :
    s.get? n = some r ↔ r ∈ s.routes ∧ r.name = n := by
  rw [h.mem_routes_iff, h.has_iff]
  constructor
  · intro hr
    have hname : r.name = n := h.name_eq n r ((h.get?_eq n).symm.trans hr)
    subst hname
    exact ⟨hr, rfl⟩
  · rintro ⟨hr, rfl⟩
    exact hr

theorem reconcile_of_missing (h : ∃ r ∈ s.routes, r.name ∉ fetched.map Route.name) :
    (s.reconcile fetched).Holds (fetched.foldl Contents.put Contents.empty) := by
  rw [reconcile, diff_of_missing h]
  exact holds_build fetched

theorem reconcile_of_covered (hs : s.Holds m)
    (h : ∀ r ∈ s.routes, r.name ∈ fetched.map Route.name) :
    (s.reconcile fetched).Holds ((s.news fetched).foldl Contents.put m) := by
  rw [reconcile, diff_of_covered h]
  by_cases hnews : s.news fetched = []
  · rw [if_pos hnews, hnews]
    exact hs
  · rw [if_neg hnews]
    exact hs.foldl_withRoute (s.news fetched)

end Holds

/-- The outcome of one reconciliation: the change that it finds, and the table that this leaves. -/
structure Reconciled (s : Snapshot) (fetched : List Route) (t : Snapshot) : Prop where
  /-- The table has the names of the list and no others. -/
  names : (t.routes.map Route.name).Perm (fetched.map Route.name)
  replaces : (∃ r ∈ s.routes, r.name ∉ fetched.map Route.name) →
    s.diff fetched = some (.replace fetched) ∧ ∀ r, r ∈ t.routes ↔ r ∈ fetched
  upserts : (∀ r ∈ s.routes, r.name ∈ fetched.map Route.name) →
    s.diff fetched = (if s.news fetched = [] then none else some (.upsert (s.news fetched))) ∧
      (∀ r ∈ s.news fetched, t.get? r.name = some r) ∧
        ∀ n, n ∉ (s.news fetched).map Route.name → t.get? n = s.get? n
  /-- The same routes, in whatever order they are fetched again, bring nothing. -/
  settles : ∀ again : List Route, again.Perm fetched → t.diff again = none

namespace Holds

/-- The names of a table stand in no need of order: each occurs once. -/
theorem names_perm (h : s.Holds m) {names : List String} (hnodup : names.Nodup)
    (hmem : ∀ n, (∃ r, m n = some r) ↔ n ∈ names) : (s.routes.map Route.name).Perm names := by
  exact (List.perm_ext_iff_of_nodup h.nodup_names_routes hnodup).mpr fun n =>
    (h.mem_names_iff n).trans (hmem n)

/-- In a list without doubled names a name stands for one route. -/
private theorem name_injOn (hf : (fetched.map Route.name).Nodup) {a b : Route} (ha : a ∈ fetched)
    (hb : b ∈ fetched) (h : a.name = b.name) : a = b :=
  List.inj_on_of_nodup_map hf ha hb h

/-- A route that is no news keeps its place, for no other fetched route has its name. -/
theorem not_mem_names_news (hf : (fetched.map Route.name).Nodup) {r : Route} (hr : r ∈ fetched)
    (hold : ¬s.IsNews r) : r.name ∉ (s.news fetched).map Route.name := by
  intro hmem
  obtain ⟨a, ha, hname⟩ := List.mem_map.mp hmem
  obtain ⟨hafetched, hanews⟩ := (mem_news_iff a).mp ha
  rw [name_injOn hf hafetched hr hname] at hanews
  exact hold hanews

/-- A table made from routes of different names has these routes. -/
theorem mem_routes_iff_of_foldl_put {rs : List Route}
    (h : s.Holds (rs.foldl Contents.put Contents.empty)) (hrs : (rs.map Route.name).Nodup)
    (r : Route) : r ∈ s.routes ↔ r ∈ rs := by
  rw [h.mem_routes_iff]
  constructor
  · intro hr
    exact (Contents.mem_of_has_foldl_put hr).resolve_left fun hempty => nomatch hempty
  · exact fun hr => Contents.foldl_put_of_mem hrs hr Contents.empty

theorem reconciled_of_missing (hf : (fetched.map Route.name).Nodup)
    (h : ∃ r ∈ s.routes, r.name ∉ fetched.map Route.name) :
    s.Reconciled fetched (s.reconcile fetched) := by
  have ht := reconcile_of_missing (s := s) h
  have hroutes := ht.mem_routes_iff_of_foldl_put hf
  have hget : ∀ r ∈ fetched, (s.reconcile fetched).get? r.name = some r := fun r hr =>
    (ht.has_iff r).mp ((ht.mem_routes_iff r).mp ((hroutes r).mpr hr))
  have hnames : ((s.reconcile fetched).routes.map Route.name).Perm (fetched.map Route.name) := by
    refine ht.names_perm hf fun n => ?_
    rw [← ht.mem_names_iff]
    simp only [List.mem_map, hroutes]
  refine ⟨hnames, fun _ => ⟨diff_of_missing h, hroutes⟩, fun hcovered => ?_, fun again hperm => ?_⟩
  · obtain ⟨r, hr, hmissing⟩ := h
    exact absurd (hcovered r hr) hmissing
  · refine diff_eq_none (fun r hr => ?_) fun r hr => ?_
    · exact List.mem_map_of_mem (hperm.mem_iff.mpr ((hroutes r).mp hr))
    · exact not_isNews_self (hget r (hperm.mem_iff.mp hr))

/-- Where nothing is missing, the news are put into the table and all other names keep what they
had. -/
theorem get?_of_covered (hs : s.Holds m) (hf : (fetched.map Route.name).Nodup)
    (h : ∀ r ∈ s.routes, r.name ∈ fetched.map Route.name) :
    (∀ r ∈ s.news fetched, (s.reconcile fetched).get? r.name = some r) ∧
      ∀ n, n ∉ (s.news fetched).map Route.name → (s.reconcile fetched).get? n = s.get? n := by
  have ht := hs.reconcile_of_covered h
  have hnews : ((s.news fetched).map Route.name).Nodup :=
    hf.sublist (List.filter_sublist.map Route.name)
  constructor
  · intro r hr
    rw [ht.get?_eq, Contents.foldl_put_of_mem hnews hr]
  · intro n hn
    rw [ht.get?_eq, Contents.foldl_put_of_not_mem hn, hs.get?_eq]

/-- After the step every fetched route is there, or one of its name whose stamp is no lower. -/
theorem exists_get?_of_covered (hs : s.Holds m) (hf : (fetched.map Route.name).Nodup)
    (h : ∀ r ∈ s.routes, r.name ∈ fetched.map Route.name) {r : Route} (hr : r ∈ fetched) :
    ∃ held, (s.reconcile fetched).get? r.name = some held ∧ ¬held.updatedAt < r.updatedAt := by
  obtain ⟨hnew, hkept⟩ := hs.get?_of_covered hf h
  by_cases hnews : s.IsNews r
  · exact ⟨r, hnew r ((mem_news_iff r).mpr ⟨hr, hnews⟩), lt_irrefl _⟩
  · obtain ⟨old, hold, hstamp⟩ :
        ∃ old, s.get? r.name = some old ∧ ¬old.updatedAt < r.updatedAt := by
      simpa [IsNews] using hnews
    exact ⟨old, (hkept _ (not_mem_names_news hf hr hnews)).trans hold, hstamp⟩

theorem reconciled_of_covered (hs : s.Holds m) (hf : (fetched.map Route.name).Nodup)
    (h : ∀ r ∈ s.routes, r.name ∈ fetched.map Route.name) :
    s.Reconciled fetched (s.reconcile fetched) := by
  have ht := hs.reconcile_of_covered h
  obtain ⟨hnew, hkept⟩ := hs.get?_of_covered hf h
  have hmem : ∀ n, (∃ r, (s.reconcile fetched).get? n = some r) ↔ n ∈ fetched.map Route.name := by
    intro n
    constructor
    · rintro ⟨r, hr⟩
      by_cases hn : n ∈ (s.news fetched).map Route.name
      · obtain ⟨a, ha, rfl⟩ := List.mem_map.mp hn
        exact List.mem_map_of_mem ((mem_news_iff a).mp ha).1
      · rw [hkept n hn, hs.get?_eq] at hr
        obtain ⟨a, ha, rfl⟩ := List.mem_map.mp ((hs.mem_names_iff n).mpr ⟨r, hr⟩)
        exact h a ha
    · intro hn
      obtain ⟨r, hr, rfl⟩ := List.mem_map.mp hn
      obtain ⟨held, hheld, -⟩ := hs.exists_get?_of_covered hf h hr
      exact ⟨held, hheld⟩
  have hnames : ((s.reconcile fetched).routes.map Route.name).Perm (fetched.map Route.name) :=
    ht.names_perm hf fun n => by rw [← ht.get?_eq, hmem]
  refine ⟨hnames, fun hmissing => ?_, fun _ => ⟨diff_of_covered h, hnew, hkept⟩,
    fun again hperm => ?_⟩
  · obtain ⟨r, hr, hmissing⟩ := hmissing
    exact absurd (h r hr) hmissing
  · refine diff_eq_none (fun r hr => ?_) fun r hr hnews => ?_
    · have hr' : r.name ∈ (s.reconcile fetched).routes.map Route.name := List.mem_map_of_mem hr
      exact (hperm.map Route.name).mem_iff.mpr (hnames.mem_iff.mp hr')
    · obtain ⟨held, hheld, hstamp⟩ := hs.exists_get?_of_covered hf h (hperm.mem_iff.mp hr)
      exact hstamp (hnews held hheld)

/-- Every table that holds a map of routes is reconciled with every list of routes of different
names. -/
theorem reconciled (hs : s.Holds m) (hf : (fetched.map Route.name).Nodup) :
    s.Reconciled fetched (s.reconcile fetched) := by
  by_cases h : ∀ r ∈ s.routes, r.name ∈ fetched.map Route.name
  · exact hs.reconciled_of_covered hf h
  · push Not at h
    exact reconciled_of_missing hf h

/-- If each fetched route is news or there already, then the table comes to have the fetched routes
and no others. -/
theorem mem_routes_reconcile_iff (hs : s.Holds m) (hf : (fetched.map Route.name).Nodup)
    (hnew : ∀ r ∈ fetched, s.IsNews r ∨ s.get? r.name = some r) (r : Route) :
    r ∈ (s.reconcile fetched).routes ↔ r ∈ fetched := by
  have hreconciled := hs.reconciled hf
  by_cases h : ∀ r ∈ s.routes, r.name ∈ fetched.map Route.name
  · obtain ⟨-, hnews, hkept⟩ := hreconciled.upserts h
    have ht := hs.reconcile_of_covered h
    have hmem : ∀ a ∈ fetched, a ∈ (s.reconcile fetched).routes := by
      intro a ha
      rw [ht.mem_routes_iff, ht.has_iff]
      by_cases hanews : s.IsNews a
      · exact hnews a ((mem_news_iff a).mpr ⟨ha, hanews⟩)
      · rw [hkept _ (not_mem_names_news hf ha hanews)]
        exact (hnew a ha).resolve_left hanews
    refine ⟨fun hr => ?_, hmem r⟩
    obtain ⟨a, ha, hname⟩ := List.mem_map.mp
      (hreconciled.names.mem_iff.mp (List.mem_map_of_mem hr))
    rwa [← name_injOn ht.nodup_names_routes (hmem a ha) hr hname]
  · push Not at h
    exact (hreconciled.replaces h).2 r

end Holds
end Snapshot

namespace Operation

/-- One comparison with a fetched list, after whatever history: the names of the list are the names
of the table, a lost name brings the whole list in, and otherwise only the news change anything.
The next comparison with the same routes finds nothing to do. -/
theorem reconcile_after (ops : List Operation) (fetched : List Route)
    (hf : (fetched.map Route.name).Nodup) :
    (after ops).Reconciled fetched ((after ops).reconcile fetched) :=
  (holds_after ops).reconciled hf

/-- A later version of a route of the moves. -/
def laterApi : Route := { Route.plain "api" ⟨none, none, some "y", none⟩ with updatedAt := 1 }

/-- A fetch after the moves: a new name, a route with another rule and the stamp it had, and a route
with a higher stamp. -/
def laterFetch : List Route :=
  [.plain "new" ⟨some "h", none, none, none⟩, .plain "web" ⟨none, some "/elsewhere", none, none⟩,
    laterApi]

/-- With an equal stamp nothing of a route leaks in, and with a higher one all of it. -/
theorem reconcile_after_moves :
    (laterFetch.map Route.name).Nodup ∧
      ((after moves).reconcile laterFetch).get? "web" =
        some (.plain "web" ⟨none, some "/api", none, none⟩) ∧
      ((after moves).reconcile laterFetch).get? "api" = some laterApi := by
  have hf : (laterFetch.map Route.name).Nodup := by decide
  have hget : ∀ n, (after moves).get? n = contents moves n := (holds_after moves).get?_eq
  have hcovered : ∀ r ∈ (after moves).routes, r.name ∈ laterFetch.map Route.name := by
    intro r hr
    rw [(holds_after moves).mem_routes_iff, has_contents_moves_iff] at hr
    rcases hr with rfl | rfl <;> decide
  obtain ⟨-, hnew, hkept⟩ := (reconcile_after moves laterFetch hf).upserts hcovered
  refine ⟨hf, ?_, ?_⟩
  · refine (hkept "web" fun hmem => ?_).trans ((hget "web").trans rfl)
    obtain ⟨r, hr, hname⟩ := List.mem_map.mp hmem
    obtain ⟨hrfetch, hrnews⟩ := (Snapshot.mem_news_iff r).mp hr
    have hstamp : (0 : Int) < r.updatedAt := hrnews _ ((hget r.name).trans (by rw [hname]; rfl))
    simp only [laterFetch, List.mem_cons, List.not_mem_nil, or_false] at hrfetch
    rcases hrfetch with rfl | rfl | rfl
    · exact absurd hname (by decide)
    · exact absurd hstamp (lt_irrefl 0)
    · exact absurd hname (by decide)
  · refine hnew laterApi ((Snapshot.mem_news_iff _).mpr ⟨by simp [laterFetch], fun old hold => ?_⟩)
    rw [hget] at hold
    cases hold
    decide

end Operation
end Gateway
