import Gateway.Proofs.Placements

/-! # The representation of a table: each route once in every index, where it belongs -/
namespace Gateway
namespace Snapshot

/-- All groups of the scopes, each with its host and its place. -/
def groups (s : Snapshot) : List ((Option String × Option (List String)) × List Route) :=
  s.hosts.flatMap (fun e => e.2.groups.map fun g => ((some e.1, g.1), g.2)) ++
    s.anyHost.groups.map fun g => ((none, g.1), g.2)

theorem mem_groups_iff (s : Snapshot) (host : Option String) (place : Option (List String))
    (rs : List Route) : ((host, place), rs) ∈ s.groups ↔
      match host with
      | some k => ∃ scope, (k, scope) ∈ s.hosts ∧ (place, rs) ∈ scope.groups
      | none => (place, rs) ∈ s.anyHost.groups := by
  simp only [groups, List.mem_append, List.mem_flatMap, List.mem_map, Prod.exists, Prod.mk.injEq]
  cases host with
  | none =>
    constructor
    · rintro (⟨k, scope, -, p, g, -, ⟨hk, -⟩, -⟩ | ⟨p, g, hmem, ⟨-, rfl⟩, rfl⟩)
      · cases hk
      · exact hmem
    · exact fun hmem => Or.inr ⟨place, rs, hmem, ⟨rfl, rfl⟩, rfl⟩
  | some k =>
    constructor
    · rintro (⟨j, scope, hscope, p, g, hmem, ⟨hj, rfl⟩, rfl⟩ | ⟨p, g, -, ⟨hk, -⟩, -⟩)
      · cases hj
        exact ⟨scope, hscope, hmem⟩
      · cases hk
    · rintro ⟨scope, hscope, hmem⟩
      exact Or.inl ⟨k, scope, hscope, place, rs, hmem, ⟨rfl, rfl⟩, rfl⟩

/-- A snapshot that has one tidy scope for each host, and no group without routes in its index. -/
structure Tidy (s : Snapshot) : Prop where
  nodup_hosts : (Assoc.keys s.hosts).Nodup
  scope : ∀ e ∈ s.hosts, e.2.Tidy
  anyHost : s.anyHost.Tidy
  index : ∀ e ∈ s.index.byHost, e.2 ≠ []

theorem tidy_empty : empty.Tidy where
  nodup_hosts := List.nodup_nil
  scope _ he := absurd he List.not_mem_nil
  anyHost := Scope.tidy_empty
  index _ he := absurd he List.not_mem_nil

namespace Tidy
variable {s : Snapshot}

theorem scopeAt (h : s.Tidy) (host : Option String) : (s.scopeAt host).Tidy := by
  cases host with
  | none => exact h.anyHost
  | some k =>
    rw [Snapshot.scopeAt]
    cases hk : Assoc.get? k s.hosts with
    | none => exact Scope.tidy_empty
    | some scope => exact h.scope _ (Assoc.mem_of_get? hk)

theorem setHost (h : s.Tidy) (host : String) {scope : Scope} (hscope : scope.Tidy) :
    Tidy { s with hosts := Assoc.set host scope s.hosts } where
  nodup_hosts := Assoc.nodup_keys_set h.nodup_hosts host scope
  scope e he := by
    rcases Assoc.mem_set he with he | ⟨-, he⟩
    · exact h.scope e he
    · rw [he]
      exact hscope
  anyHost := h.anyHost
  index := h.index

theorem withoutScoped (h : s.Tidy) (r : Route) : (s.withoutScoped r).Tidy := by
  unfold Snapshot.withoutScoped
  cases r.host with
  | none => exact { h with anyHost := h.anyHost.without r }
  | some k =>
    dsimp only
    cases hk : Assoc.get? k s.hosts with
    | none => exact h
    | some scope => exact h.setHost k ((h.scope _ (Assoc.mem_of_get? hk)).without r)

theorem withScoped (h : s.Tidy) (r : Route) : (s.withScoped r).Tidy := by
  unfold Snapshot.withScoped
  cases r.host with
  | none => exact { h with anyHost := h.anyHost.withRoute r }
  | some k => exact h.setHost k ((h.scopeAt (some k)).withRoute r)

theorem withRoute (h : s.Tidy) (r : Route) : (s.withRoute r).Tidy := by
  unfold Snapshot.withRoute
  have hnext : ∀ cleared : Snapshot, cleared.Tidy →
      Tidy { cleared.withScoped r with
        index := s.index.withRoute r, byName := Assoc.set r.name r s.byName } := fun _ hc =>
    ⟨(hc.withScoped r).nodup_hosts, (hc.withScoped r).scope, (hc.withScoped r).anyHost,
      fun _ he => Index.ne_nil_of_mem_withRoute he⟩
  cases s.get? r.name with
  | none => exact hnext s h
  | some old => exact hnext _ (h.withoutScoped old)

theorem foldl_withRoute (h : s.Tidy) (rs : List Route) :
    (rs.foldl (fun s r => s.withRoute r) s).Tidy := by
  induction rs generalizing s with
  | nil => exact h
  | cons r rs ih => exact ih (h.withRoute r)

theorem run (h : s.Tidy) (o : Operation) : (o.run s).Tidy := by
  cases o with
  | load rs => exact tidy_empty.foldl_withRoute rs
  | add r => exact h.withRoute r
  | apply c =>
    cases c with
    | upsert rs => exact h.foldl_withRoute rs
    | replace rs => exact tidy_empty.foldl_withRoute rs

theorem groupAt_of_mem (h : s.Tidy) {host : Option String} {place : Option (List String)}
    {rs : List Route} (hmem : ((host, place), rs) ∈ s.groups) : s.groupAt host place = rs := by
  rw [mem_groups_iff] at hmem
  cases host with
  | none => exact h.anyHost.groupAt_of_mem hmem
  | some k =>
    obtain ⟨scope, hscope, hmem⟩ := hmem
    rw [groupAt, Snapshot.scopeAt, Assoc.get?_of_mem h.nodup_hosts hscope, Option.getD_some]
    exact (h.scope _ hscope).groupAt_of_mem hmem

theorem mem_groups (h : s.Tidy) {host : Option String} {place : Option (List String)} {r : Route}
    (hr : r ∈ s.groupAt host place) : ((host, place), s.groupAt host place) ∈ s.groups := by
  rw [mem_groups_iff]
  cases host with
  | none => exact h.anyHost.mem_groups hr
  | some k =>
    rw [groupAt, Snapshot.scopeAt] at hr ⊢
    cases hk : Assoc.get? k s.hosts with
    | none =>
      rw [hk, Option.getD_none, Scope.groupAt_empty] at hr
      cases hr
    | some scope =>
      rw [hk, Option.getD_some] at hr
      have hmem := Assoc.mem_of_get? hk
      exact ⟨scope, hmem, (h.scope _ hmem).mem_groups hr⟩

theorem nodup_labels (h : s.Tidy) : (s.groups.map Prod.fst).Nodup := by
  have hscope : ∀ (host : Option String) (scope : Scope), scope.Tidy →
      ((scope.groups.map fun g => ((host, g.1), g.2)).map Prod.fst).Nodup := by
    intro host scope hscope
    have hmap : (scope.groups.map fun g => ((host, g.1), g.2)).map Prod.fst =
        (scope.groups.map Prod.fst).map fun place => (host, place) := by
      simp only [List.map_map]
      rfl
    rw [hmap]
    exact hscope.nodup_places.map fun _ _ he => (Prod.mk.inj he).2
  have hlabel : ∀ (host : Option String) (scope : Scope),
      ∀ label ∈ (scope.groups.map fun g => ((host, g.1), g.2)).map Prod.fst, label.1 = host := by
    intro host scope label hmem
    simp only [List.map_map, List.mem_map] at hmem
    obtain ⟨g, -, rfl⟩ := hmem
    rfl
  rw [groups, List.map_append, List.map_flatMap]
  refine List.nodup_append.mpr ⟨List.nodup_flatMap.mpr ⟨fun e he => hscope _ _ (h.scope e he), ?_⟩,
    hscope _ _ h.anyHost, ?_⟩
  · -- Two scopes of different hosts have no label in common.
    refine (List.pairwise_map.mp h.nodup_hosts).imp fun {a b} hne label ha hb => hne ?_
    exact Option.some.inj ((hlabel _ _ label ha).symm.trans (hlabel _ _ label hb))
  · rintro label hmem other hother rfl
    obtain ⟨e, -, hmem⟩ := List.mem_flatMap.mp hmem
    exact nomatch (hlabel _ _ label hmem).symm.trans (hlabel _ _ label hother)

end Tidy

/-- A group in the order in which its routes are tried, without two that are level. -/
def IsOrdered (rs : List Route) : Prop :=
  rs.Pairwise fun a b => a.ahead b = true ∧ b.ahead a = false

theorem isOrdered_of_lists {p : Route → Prop} {rs : List Route} (h : Lists p rs) :
    IsOrdered rs := by
  refine h.sorted.imp fun {a b} hlt => ⟨(Route.ahead_iff a b).mpr hlt.le, ?_⟩
  rw [Bool.eq_false_iff, Ne, Route.ahead_iff]
  exact not_le_of_gt hlt

/-- A snapshot whose scopes and whose index keep the routes of its names, each once and where it
belongs. -/
structure Represents (s : Snapshot) : Prop where
  nodup_names : (Assoc.keys s.byName).Nodup
  name_eq : ∀ e ∈ s.byName, e.2.name = e.1
  /-- What is stored in the scopes is each route, once, in the scope of its host: in the group at
  the segments of its prefix, or among those without prefix. -/
  placed : (spread s.groups).Perm
    ((Assoc.values s.byName).map fun r => ((r.host, r.pathPrefix.map segments), r))
  /-- What is stored in the index is each route, once, in the group of its host. -/
  indexed : (spread s.index.groups).Perm ((Assoc.values s.byName).map fun r => (r.host, r))
  /-- No two groups are for the same host and place, so that a search finds all that is stored. -/
  placed_found : ∀ g ∈ s.groups, s.groupAt g.1.1 g.1.2 = g.2
  indexed_found : ∀ g ∈ s.index.groups, s.index.groupAt g.1 = g.2
  placed_ordered : ∀ g ∈ s.groups, IsOrdered g.2
  indexed_ordered : ∀ g ∈ s.index.groups, IsOrdered g.2
  /-- Groups are dropped with their last route, but for those that every scope and index has. -/
  placed_ne_nil : ∀ g ∈ s.groups, g.1.2 ≠ none → g.2 ≠ []
  indexed_ne_nil : ∀ g ∈ s.index.groups, g.1 ≠ none → g.2 ≠ []

namespace Tidy
variable {s : Snapshot} {m : Contents}

theorem lists_of_mem (h : s.Tidy) (hs : s.Holds m)
    {g : (Option String × Option (List String)) × List Route} (hg : g ∈ s.groups) :
    Lists (fun r => m.Has r ∧ (r.host, r.place) = g.1) g.2 := by
  obtain ⟨⟨host, place⟩, rs⟩ := g
  have hlists := hs.grouped host place
  rw [h.groupAt_of_mem hg] at hlists
  exact hlists.congr fun r => by rw [Prod.mk.injEq]

theorem ne_nil_of_mem (h : s.Tidy) {g : (Option String × Option (List String)) × List Route}
    (hg : g ∈ s.groups) (hplace : g.1.2 ≠ none) : g.2 ≠ [] := by
  obtain ⟨⟨host, place⟩, rs⟩ := g
  obtain ⟨ss, rfl⟩ := Option.ne_none_iff_exists'.mp hplace
  rw [mem_groups_iff] at hg
  have hscope : ∀ scope : Scope, scope.Tidy → (some ss, rs) ∈ scope.groups → rs ≠ [] := by
    intro scope htidy hmem
    have hstored := (mem_unlabelled_some_iff ss).mp hmem
    exact htidy.ne_nil ss rs ((htidy.wellNamed.mem_entries_iff ss rs).mp hstored)
  cases host with
  | none => exact hscope _ h.anyHost hg
  | some k =>
    obtain ⟨scope, hmem, hg⟩ := hg
    exact hscope scope (h.scope _ hmem) hg

theorem represents (h : s.Tidy) (hs : s.Holds m) : s.Represents where
  nodup_names := hs.nodup_names
  name_eq e he := by
    have hget : s.get? e.1 = some e.2 := Assoc.get?_of_mem hs.nodup_names he
    exact hs.name_eq e.1 e.2 (by rw [← hs.get?_eq, hget])
  placed := by
    refine spread_perm (fun r => (r.host, r.place)) h.nodup_labels
      (fun g hg => h.lists_of_mem hs hg)
      (fun r hr => ⟨_, h.mem_groups (((hs.grouped r.host r.place).mem_iff r).mpr ⟨hr, rfl, rfl⟩)⟩)
      hs.mem_values_iff ?_
    exact List.Nodup.of_map Route.name (by rw [hs.map_name_values]; exact hs.nodup_names)
  indexed := by
    refine spread_perm Route.host (Index.nodup_hosts hs.nodup_hosts) ?_
      (fun r hr => ⟨_, Index.mem_groups (((hs.indexed r.host).mem_iff r).mpr ⟨hr, rfl⟩)⟩)
      hs.mem_values_iff ?_
    · intro g hg
      have hlists := hs.indexed g.1
      rwa [Index.groupAt_of_mem hs.nodup_hosts hg] at hlists
    · exact List.Nodup.of_map Route.name (by rw [hs.map_name_values]; exact hs.nodup_names)
  placed_found g hg := h.groupAt_of_mem hg
  indexed_found g hg := Index.groupAt_of_mem hs.nodup_hosts hg
  placed_ordered g hg := isOrdered_of_lists (h.lists_of_mem hs hg)
  indexed_ordered g hg := by
    have hlists := hs.indexed g.1
    rw [Index.groupAt_of_mem hs.nodup_hosts hg] at hlists
    exact isOrdered_of_lists hlists
  placed_ne_nil g hg hplace := h.ne_nil_of_mem hg hplace
  indexed_ne_nil g hg hhost := by
    obtain ⟨host, rs⟩ := g
    obtain ⟨k, rfl⟩ := Option.ne_none_iff_exists'.mp hhost
    exact h.index _ ((mem_unlabelled_some_iff k).mp hg)

end Tidy
end Snapshot

namespace Operation

theorem tidy_after (ops : List Operation) : (after ops).Tidy := by
  induction ops using List.reverseRecOn with
  | nil => exact Snapshot.tidy_empty
  | append_singleton ops o ih =>
    rw [after, List.foldl_concat]
    exact ih.run o

/-- Whatever was loaded, added and applied, names given again and routes moved from host to host and
from place to place, the table keeps each of its routes once in every index and nothing besides. -/
theorem after_represents (ops : List Operation) : (after ops).Represents :=
  (tidy_after ops).represents (holds_after ops)

/-- A name that moves from a host to a group with another route: both routes stand once in every
index, and nothing of the old place is left but a scope without routes. -/
example :
    let api := .plain "api" ⟨none, some "/w/", none, none⟩
    let web := .plain "web" ⟨none, some "/w", none, none⟩
    let table := after [load [.plain "web" ⟨some "h", some "/w", none, none⟩, api], add web]
    table.byName = [("web", web), ("api", api)] ∧ table.index.groups = [(none, [api, web])] ∧
      table.groups =
        [((some "h", none), []), ((none, some ["w"]), [api, web]), ((none, none), [])] := by cbv

end Operation
end Gateway
