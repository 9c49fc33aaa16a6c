import Gateway.Proofs.SnapshotContents

/-! # The invariant of snapshots: every scope and the index list exactly what the names map to -/
namespace Gateway

namespace Lists
variable {m : Contents} {c : Route → Prop} {rs : List Route} {r : Route}

/-- A list of routes under a condition, after a route was put that meets it. -/
theorem put (h : Lists (fun a => m.Has a ∧ c a) rs) (hr : c r) :
    Lists (fun a => (m.put r).Has a ∧ c a)
      (bySpecificity (rs.filter (·.name != r.name) ++ [r])) := by
  refine (h.replace (fun a b ha hb => ha.1.eq hb.1) r).congr fun a => ?_
  rw [Contents.has_put_iff]
  constructor
  · rintro (⟨⟨ha, hc⟩, hne⟩ | rfl)
    · exact ⟨Or.inl ⟨ha, hne⟩, hc⟩
    · exact ⟨Or.inr rfl, hr⟩
  · rintro ⟨⟨ha, hne⟩ | rfl, hc⟩
    · exact Or.inl ⟨⟨ha, hc⟩, hne⟩
    · exact Or.inr rfl

/-- The list after a route was put that does not meet the condition. -/
theorem put_elsewhere (h : Lists (fun a => m.Has a ∧ c a) rs) (hr : ¬c r) :
    Lists (fun a => (m.put r).Has a ∧ c a) (rs.filter (·.name != r.name)) := by
  refine (h.remove r.name).congr fun a => ?_
  rw [Contents.has_put_iff]
  constructor
  · rintro ⟨⟨ha, hc⟩, hne⟩
    exact ⟨Or.inl ⟨ha, hne⟩, hc⟩
  · rintro ⟨⟨ha, hne⟩ | rfl, hc⟩
    · exact ⟨⟨ha, hc⟩, hne⟩
    · exact absurd hc hr

end Lists

namespace Snapshot

/-- A snapshot holds a map of routes: by name, in the group of its scope where each route stands,
and in the index under its host. -/
structure Holds (s : Snapshot) (m : Contents) : Prop where
  get?_eq : ∀ n, s.get? n = m n
  nodup_names : (Assoc.keys s.byName).Nodup
  name_eq : ∀ n r, m n = some r → r.name = n
  grouped : ∀ host place,
    Lists (fun r => m.Has r ∧ r.host = host ∧ r.place = place) (s.groupAt host place)
  nodup_hosts : (Assoc.keys s.index.byHost).Nodup
  indexed : ∀ host, Lists (fun r => m.Has r ∧ r.host = host) (s.index.groupAt host)

theorem holds_empty : empty.Holds Contents.empty := by
  have hnone : ∀ r, ¬Contents.empty.Has r := by
    intro r h
    cases h
  refine ⟨fun _ => rfl, List.nodup_nil, ?_, ?_, List.nodup_nil, ?_⟩
  · intro n r h
    cases h
  · intro host place
    have hs : empty.groupAt host place = [] := by
      cases host <;> simp [groupAt, scopeAt, empty]
    rw [hs]
    exact Lists.nil fun r h => hnone r h.1
  · intro host
    have hx : empty.index.groupAt host = [] := by cases host <;> rfl
    rw [hx]
    exact Lists.nil fun r h => hnone r h.1

theorem size_eq (s : Snapshot) : s.size = s.routes.length := by
  rw [routes, List.length_mergeSort, Assoc.values, List.length_map, size]

namespace Holds
variable {s : Snapshot} {m : Contents}

theorem has_iff (h : s.Holds m) (r : Route) : m.Has r ↔ s.get? r.name = some r := by
  rw [Contents.Has, h.get?_eq]

/-- Only the group where the old route of a name stands loses anything when the name is cleared. -/
theorem filter_groupAt_of_get? (h : s.Holds m) {old : Route} {name : String}
    (hold : s.get? name = some old) {host : Option String} {place : Option (List String)}
    (hne : ¬(host = old.host ∧ place = old.place)) :
    (s.groupAt host place).filter (·.name != name) = s.groupAt host place := by
  rw [h.get?_eq] at hold
  have hname := h.name_eq name old hold
  refine List.filter_eq_self.mpr fun a ha => ?_
  obtain ⟨hhas, hhost, hplace⟩ := ((h.grouped host place).mem_iff a).mp ha
  rw [bne_iff_ne]
  intro he
  have hao : a = old := hhas.eq (by rw [Contents.Has, hname, hold]) (he.trans hname.symm)
  subst hao
  exact hne ⟨hhost.symm, hplace.symm⟩

theorem filter_groupAt_of_none (h : s.Holds m) {name : String} (hnone : s.get? name = none)
    (host : Option String) (place : Option (List String)) :
    (s.groupAt host place).filter (·.name != name) = s.groupAt host place := by
  refine List.filter_eq_self.mpr fun a ha => ?_
  obtain ⟨hhas, _⟩ := ((h.grouped host place).mem_iff a).mp ha
  rw [bne_iff_ne]
  rintro rfl
  rw [(h.has_iff a).mp hhas] at hnone
  exact nomatch hnone

theorem groupAt_withRoute (h : s.Holds m) (r : Route) (host : Option String)
    (place : Option (List String)) :
    (s.withRoute r).groupAt host place =
      if host = r.host ∧ place = r.place then
        bySpecificity ((s.groupAt host place).filter (·.name != r.name) ++ [r])
      else (s.groupAt host place).filter (·.name != r.name) := by
  cases hg : s.get? r.name with
  | none =>
    have hw : (s.withRoute r).groupAt host place = (s.withScoped r).groupAt host place := by
      rw [withRoute, hg]
      rfl
    rw [hw, groupAt_withScoped, h.filter_groupAt_of_none hg]
  | some old =>
    have hw : (s.withRoute r).groupAt host place =
        ((s.withoutScoped old).withScoped r).groupAt host place := by
      rw [withRoute, hg]
      rfl
    have hc : (s.withoutScoped old).groupAt host place =
        (s.groupAt host place).filter (·.name != r.name) := by
      rw [groupAt_withoutScoped]
      split_ifs with hat
      · rw [h.name_eq r.name old (by rw [← h.get?_eq, hg])]
      · exact (h.filter_groupAt_of_get? hg hat).symm
    rw [hw, groupAt_withScoped, hc]

/-- Putting a route into a snapshot puts it into the map that the snapshot holds. -/
theorem withRoute (h : s.Holds m) (r : Route) : (s.withRoute r).Holds (m.put r) := by
  refine ⟨?_, ?_, ?_, ?_, ?_, ?_⟩
  · intro n
    change Assoc.get? n (Assoc.set r.name r s.byName) = _
    rw [Assoc.get?_set, Contents.put, Function.update_apply]
    split_ifs
    · rfl
    · exact h.get?_eq n
  · exact Assoc.nodup_keys_set h.nodup_names r.name r
  · intro n a ha
    rw [Contents.put, Function.update_apply] at ha
    split_ifs at ha with hn
    · rw [hn, Option.some.inj ha]
    · exact h.name_eq n a ha
  · intro host place
    rw [h.groupAt_withRoute]
    split_ifs with hat
    · exact (h.grouped host place).put ⟨hat.1.symm, hat.2.symm⟩
    · exact (h.grouped host place).put_elsewhere fun hc => hat ⟨hc.1.symm, hc.2.symm⟩
  · exact Index.nodup_withRoute h.nodup_hosts r
  · intro host
    change Lists _ ((s.index.withRoute r).groupAt host)
    rw [Index.groupAt_withRoute h.nodup_hosts]
    split_ifs with hat
    · exact (h.indexed host).put hat.symm
    · have hl := (h.indexed host).put_elsewhere fun hc => hat hc.symm
      rwa [hl.bySpecificity_eq]

theorem foldl_withRoute (h : s.Holds m) (rs : List Route) :
    (rs.foldl (fun s r => s.withRoute r) s).Holds (rs.foldl Contents.put m) := by
  induction rs generalizing s m with
  | nil => exact h
  | cons r rs ih => exact ih (h.withRoute r)

theorem mem_values_iff (h : s.Holds m) (r : Route) : r ∈ Assoc.values s.byName ↔ m.Has r := by
  rw [h.has_iff]
  constructor
  · intro hr
    obtain ⟨⟨n, a⟩, hmem, rfl⟩ := List.mem_map.mp hr
    have hg : s.get? n = some a := Assoc.get?_of_mem h.nodup_names hmem
    rwa [h.name_eq n a (by rw [← h.get?_eq, hg])]
  · intro hg
    exact List.mem_map.mpr ⟨_, Assoc.mem_of_get? hg, rfl⟩

theorem map_name_values (h : s.Holds m) :
    (Assoc.values s.byName).map Route.name = Assoc.keys s.byName := by
  rw [Assoc.values, Assoc.keys, List.map_map]
  refine List.map_congr_left fun p hmem => ?_
  obtain ⟨n, a⟩ := p
  have hg : s.get? n = some a := Assoc.get?_of_mem h.nodup_names hmem
  exact h.name_eq n a (by rw [← h.get?_eq, hg])

theorem mem_routes_iff (h : s.Holds m) (r : Route) : r ∈ s.routes ↔ m.Has r := by
  rw [routes, (List.mergeSort_perm _ _).mem_iff, h.mem_values_iff]

/-- The routes come out in the order of their names, each name once. -/
theorem routes_sorted (h : s.Holds m) : s.routes.Pairwise fun a b => a.name < b.name := by
  have hle := @List.pairwise_mergeSort Route (fun a b => decide (a.name ≤ b.name))
    (fun a b c hab hbc => by
      rw [decide_eq_true_eq] at hab hbc ⊢
      exact hab.trans hbc)
    (fun a b => by
      rw [Bool.or_eq_true, decide_eq_true_eq, decide_eq_true_eq]
      exact le_total a.name b.name) (Assoc.values s.byName)
  have hne : s.routes.Pairwise fun a b => a.name ≠ b.name := by
    refine List.pairwise_map.mp (((List.mergeSort_perm _ _).map Route.name).nodup_iff.mpr ?_)
    rw [h.map_name_values]
    exact h.nodup_names
  exact hle.imp₂ (fun a b hab hne => lt_of_le_of_ne (of_decide_eq_true hab) hne) hne

theorem nodup_names_routes (h : s.Holds m) : (s.routes.map Route.name).Nodup :=
  List.pairwise_map.mpr (h.routes_sorted.imp fun hlt => hlt.ne)

variable {t : Snapshot}

theorem routes_eq (h : s.Holds m) (h' : t.Holds m) : s.routes = t.routes := by
  have hnodup : ∀ {u : Snapshot}, u.Holds m → u.routes.Nodup := fun hu =>
    hu.nodup_names_routes.of_map
  have hperm : s.routes.Perm t.routes :=
    (List.perm_ext_iff_of_nodup (hnodup h) (hnodup h')).mpr fun r =>
      (h.mem_routes_iff r).trans (h'.mem_routes_iff r).symm
  exact hperm.eq_of_pairwise (fun a b _ _ hab hba => absurd hba hab.asymm) h.routes_sorted
    h'.routes_sorted

theorem groupAt_eq (h : s.Holds m) (h' : t.Holds m) (host : Option String)
    (place : Option (List String)) : s.groupAt host place = t.groupAt host place :=
  (h.grouped host place).unique (h'.grouped host place)

theorem index_eq (h : s.Holds m) (h' : t.Holds m) (host : Option String) :
    s.index.groupAt host = t.index.groupAt host :=
  (h.indexed host).unique (h'.indexed host)

end Holds

/-- The routes that are tried for a request, in their order. -/
def tried (l : Lookup) (s : Snapshot) : List Route :=
  (l.host.map fun h => (s.scopeAt (some h)).candidates l.path).getD [] ++
    (s.scopeAt none).candidates l.path

theorem resolve_eq_find? (ps : Patterns) (l : Lookup) (s : Snapshot) :
    s.resolve ps l = (s.tried l).find? (·.admits ps l) := by
  rw [tried, List.find?_append, resolve]
  congr 1
  cases l.host with
  | none => rfl
  | some h =>
    cases hg : Assoc.get? h s.hosts with
    | none => simp [scopeAt, hg]
    | some scope => simp [scopeAt, hg, Scope.resolve]

theorem Holds.tried_eq {s t : Snapshot} {m : Contents} (h : s.Holds m) (h' : t.Holds m)
    (l : Lookup) : s.tried l = t.tried l := by
  have hc : ∀ host, (s.scopeAt host).candidates l.path = (t.scopeAt host).candidates l.path := by
    intro host
    have hg : ∀ place, (s.scopeAt host).groupAt place = (t.scopeAt host).groupAt place :=
      h.groupAt_eq h' host
    rw [Scope.candidates_eq, Scope.candidates_eq, hg none]
    simp only [hg]
  rw [tried, tried, hc none]
  simp only [hc]

theorem Holds.resolve_eq {s t : Snapshot} {m : Contents} (h : s.Holds m) (h' : t.Holds m)
    (ps : Patterns) (l : Lookup) : s.resolve ps l = t.resolve ps l := by
  rw [resolve_eq_find?, resolve_eq_find?, h.tried_eq h']

theorem Holds.matchRules_eq {s t : Snapshot} {m : Contents} (h : s.Holds m) (h' : t.Holds m)
    (ps : Patterns) (l : Lookup) : s.matchRules ps l = t.matchRules ps l := by
  have hnone : s.index.anyHost = t.index.anyHost := h.index_eq h' none
  rw [matchRules, matchRules, Index.find?, Index.find?, Index.ofHost_eq, Index.ofHost_eq, hnone]
  simp only [h.index_eq h']

end Snapshot
end Gateway
