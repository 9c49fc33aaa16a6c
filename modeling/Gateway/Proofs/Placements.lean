import Gateway.Proofs.TableHistory
import Gateway.Proofs.TrieEntries

/-! # Placements: where the routes of a snapshot stand, in its scopes and in its index -/
namespace Gateway

/-- The members of labelled groups, each with the label of its group. -/
def spread {κ : Type} (groups : List (κ × List Route)) : List (κ × Route) :=
  groups.flatMap fun g => g.2.map fun r => (g.1, r)

section Spread
variable {κ : Type} {groups : List (κ × List Route)}

theorem mem_spread_iff (k : κ) (r : Route) :
    (k, r) ∈ spread groups ↔ ∃ rs, (k, rs) ∈ groups ∧ r ∈ rs := by
  simp only [spread, List.mem_flatMap, List.mem_map, Prod.exists, Prod.mk.injEq]
  constructor
  · rintro ⟨j, rs, hmem, a, ha, rfl, rfl⟩
    exact ⟨rs, hmem, ha⟩
  · rintro ⟨rs, hmem, hr⟩
    exact ⟨k, rs, hmem, r, hr, rfl, rfl⟩

theorem nodup_spread (hlabels : (groups.map Prod.fst).Nodup) (h : ∀ g ∈ groups, g.2.Nodup) :
    (spread groups).Nodup := by
  induction groups with
  | nil => exact List.nodup_nil
  | cons g groups ih =>
    obtain ⟨hg, hlabels⟩ := List.nodup_cons.mp hlabels
    obtain ⟨hself, hrest⟩ := List.forall_mem_cons.mp h
    refine List.nodup_append.mpr
      ⟨hself.map fun _ _ he => (Prod.mk.inj he).2, ih hlabels hrest, ?_⟩
    rintro p hp q hq rfl
    obtain ⟨r, -, rfl⟩ := List.mem_map.mp hp
    obtain ⟨rs, hmem, -⟩ := (mem_spread_iff g.1 r).mp hq
    exact hg (List.mem_map.mpr ⟨_, hmem, rfl⟩)

/-- Groups under labels of their own that list the routes of a map by what `label` says of each
route hold every route of the map once, under its label, and no others. -/
theorem spread_perm {m : Contents} {routes : List Route} (label : Route → κ)
    (hlabels : (groups.map Prod.fst).Nodup)
    (hgroups : ∀ g ∈ groups, Lists (fun r => m.Has r ∧ label r = g.1) g.2)
    (hplaced : ∀ r, m.Has r → ∃ rs, (label r, rs) ∈ groups)
    (hroutes : ∀ r, r ∈ routes ↔ m.Has r) (hnodup : routes.Nodup) :
    (spread groups).Perm (routes.map fun r => (label r, r)) := by
  have hnodup : (routes.map fun r => (label r, r)).Nodup :=
    hnodup.map fun _ _ he => (Prod.mk.inj he).2
  refine (List.perm_ext_iff_of_nodup
    (nodup_spread hlabels fun g hg => (hgroups g hg).nodup) hnodup).mpr ?_
  rintro ⟨k, r⟩
  rw [mem_spread_iff, List.mem_map]
  constructor
  · rintro ⟨rs, hmem, hr⟩
    obtain ⟨hhas, hlabel⟩ := ((hgroups _ hmem).mem_iff r).mp hr
    exact ⟨r, (hroutes r).mpr hhas, by rw [hlabel]⟩
  · rintro ⟨a, ha, he⟩
    obtain ⟨rfl, rfl⟩ := Prod.mk.inj he
    have hhas := (hroutes a).mp ha
    obtain ⟨rs, hmem⟩ := hplaced a hhas
    exact ⟨rs, hmem, ((hgroups _ hmem).mem_iff a).mpr ⟨hhas, rfl⟩⟩

end Spread

/-! ## Groups of which one has no label -/

section Unlabelled
variable {κ : Type} {groups : List (κ × List Route)} {rest rs : List Route}

theorem mem_unlabelled_some_iff (k : κ) :
    (some k, rs) ∈ groups.map (fun g => (some g.1, g.2)) ++ [(none, rest)] ↔ (k, rs) ∈ groups := by
  rw [List.mem_append, List.mem_singleton, or_iff_left (by simp), List.mem_map]
  constructor
  · rintro ⟨g, hg, he⟩
    cases he
    exact hg
  · exact fun hmem => ⟨_, hmem, rfl⟩

theorem mem_unlabelled_none_iff :
    (none, rs) ∈ groups.map (fun g => (some g.1, g.2)) ++ [(none, rest)] ↔ rs = rest := by
  simp

theorem nodup_unlabelled (h : (groups.map Prod.fst).Nodup) (rest : List Route) :
    ((groups.map (fun g : κ × List Route => (some g.1, g.2)) ++ [(none, rest)]).map
      Prod.fst).Nodup := by
  have hmap : (groups.map fun g : κ × List Route => (some g.1, g.2)).map Prod.fst =
      (groups.map Prod.fst).map some := by
    simp only [List.map_map]
    rfl
  rw [List.map_append, hmap]
  refine List.nodup_append.mpr ⟨h.map fun _ _ => Option.some.inj, List.nodup_singleton _, ?_⟩
  rintro label hlabel other hother rfl
  obtain ⟨k, -, rfl⟩ := List.mem_map.mp hlabel
  cases List.mem_singleton.mp hother

end Unlabelled

/-! ## The groups of a scope -/

namespace Scope
variable {s : Scope}

/-- All groups of a scope, each with the place that it stands at. -/
def groups (s : Scope) : List (Option (List String) × List Route) :=
  s.trie.entries.map (fun e => (some e.1, e.2)) ++ [(none, s.unprefixed)]

/-- A scope whose trie has each place once, and no group there without routes. -/
structure Tidy (s : Scope) : Prop where
  wellNamed : s.trie.WellNamed
  ne_nil : ∀ ss g, Trie.getAt ss s.trie = some g → g ≠ []

theorem tidy_empty : empty.Tidy where
  wellNamed := Trie.wellNamed_empty
  ne_nil ss g h := by
    rw [empty, Trie.getAt_empty] at h
    cases h

/-- An update that stores no empty group keeps a scope tidy. -/
theorem Tidy.update (h : s.Tidy) (path : String) {f : Option (List Route) → Option (List Route)}
    (hf : ∀ o g, f o = some g → g ≠ []) : Tidy { s with trie := s.trie.update path f } where
  wellNamed := h.wellNamed.updateAt f (segments path)
  ne_nil ss g hg := by
    rw [Trie.update, Trie.getAt_updateAt] at hg
    split_ifs at hg
    · exact hf _ g hg
    · exact h.ne_nil ss g hg

theorem Tidy.withRoute (h : s.Tidy) (r : Route) : (s.withRoute r).Tidy := by
  unfold Scope.withRoute
  cases r.pathPrefix with
  | none => exact ⟨h.wellNamed, h.ne_nil⟩
  | some p =>
    refine h.update p fun o g hg => ?_
    cases hg
    have hmem : r ∈ bySpecificity (o.getD [] ++ [r]) :=
      (bySpecificity_perm _).mem_iff.mpr (List.mem_append_right _ (List.mem_singleton_self r))
    exact List.ne_nil_of_mem hmem

theorem Tidy.without (h : s.Tidy) (r : Route) : (s.without r).Tidy := by
  unfold Scope.without
  cases r.pathPrefix with
  | none => exact ⟨h.wellNamed, h.ne_nil⟩
  | some p =>
    refine h.update p fun o g hg => ?_
    dsimp only at hg
    split_ifs at hg with hkept
    cases hg
    exact fun hnil => hkept (List.isEmpty_iff.mpr hnil)

theorem Tidy.groupAt_of_mem (h : s.Tidy) {place : Option (List String)} {rs : List Route}
    (hmem : (place, rs) ∈ s.groups) : s.groupAt place = rs := by
  cases place with
  | none => exact (mem_unlabelled_none_iff.mp hmem).symm
  | some ss =>
    have hstored := (mem_unlabelled_some_iff ss).mp hmem
    rw [groupAt, (h.wellNamed.mem_entries_iff ss rs).mp hstored, Option.getD_some]

theorem Tidy.mem_groups (h : s.Tidy) {place : Option (List String)} {r : Route}
    (hr : r ∈ s.groupAt place) : (place, s.groupAt place) ∈ s.groups := by
  cases place with
  | none => exact mem_unlabelled_none_iff.mpr rfl
  | some ss =>
    cases hg : Trie.getAt ss s.trie with
    | none =>
      rw [groupAt, hg] at hr
      cases hr
    | some g =>
      rw [groupAt, hg]
      exact (mem_unlabelled_some_iff ss).mpr ((h.wellNamed.mem_entries_iff ss g).mpr hg)

theorem Tidy.nodup_places (h : s.Tidy) : (s.groups.map Prod.fst).Nodup :=
  nodup_unlabelled h.wellNamed.nodup_entries s.unprefixed

end Scope

/-! ## The groups of an index -/

namespace Index
variable {x : Index}

/-- All groups of an index, each with the host that it is for. -/
def groups (x : Index) : List (Option String × List Route) :=
  x.byHost.map (fun e => (some e.1, e.2)) ++ [(none, x.anyHost)]

theorem groupAt_of_mem (hx : (Assoc.keys x.byHost).Nodup) {host : Option String}
    {rs : List Route} (hmem : (host, rs) ∈ x.groups) : x.groupAt host = rs := by
  cases host with
  | none => exact (mem_unlabelled_none_iff.mp hmem).symm
  | some h =>
    have hstored := (mem_unlabelled_some_iff h).mp hmem
    rw [groupAt, Assoc.get?_of_mem hx hstored, Option.getD_some]

theorem mem_groups {host : Option String} {r : Route} (hr : r ∈ x.groupAt host) :
    (host, x.groupAt host) ∈ x.groups := by
  cases host with
  | none => exact mem_unlabelled_none_iff.mpr rfl
  | some h =>
    cases hg : Assoc.get? h x.byHost with
    | none =>
      rw [groupAt, hg] at hr
      cases hr
    | some g =>
      rw [groupAt, hg]
      exact (mem_unlabelled_some_iff h).mpr (Assoc.mem_of_get? hg)

theorem nodup_hosts (hx : (Assoc.keys x.byHost).Nodup) : (x.groups.map Prod.fst).Nodup :=
  nodup_unlabelled hx x.anyHost

/-- Whatever groups an index had, none is empty after a route was put into it. -/
theorem ne_nil_of_mem_withRoute {r : Route} {e : String × List Route}
    (he : e ∈ (x.withRoute r).byHost) : e.2 ≠ [] := by
  obtain ⟨g, hg, rfl⟩ := List.mem_map.mp he
  have hcleared : ∀ g ∈ (x.without r.name).byHost, g.2 ≠ [] := by
    intro g hg hnil
    have hkept := (List.mem_filter.mp hg).2
    rw [hnil] at hkept
    cases hkept
  have hne : g.2 ≠ [] := by
    unfold push at hg
    cases hhost : r.host with
    | none =>
      rw [hhost] at hg
      exact hcleared g hg
    | some h =>
      rw [hhost] at hg
      rcases Assoc.mem_set hg with hg | ⟨-, hg⟩
      · exact hcleared g hg
      · rw [hg]
        exact List.append_ne_nil_of_right_ne_nil _ (List.cons_ne_nil r [])
  exact fun hnil => hne (List.perm_nil.mp (hnil ▸ (bySpecificity_perm g.2).symm))

end Index
end Gateway
