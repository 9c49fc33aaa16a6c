import Gateway.Proofs.Batches
import Gateway.Proofs.Reconciliation

/-! # Removals: what a table holds after definitions were taken out of a batch -/
namespace Gateway

namespace Batch

section
variable {rest ds : List Definition} {r s : Route}

/-- What wins in the rest of a batch is found in the batch. -/
theorem mem_converting_of_mem_validate (h : rest.Sublist ds) (hr : r ∈ validate rest) :
    r ∈ converting ds := by
  have hsub : (converting rest).Sublist (converting ds) := h.filterMap _
  exact hsub.subset ((mem_validate_iff rest r).mp hr).mem

/-- No winner of the rest is newer than the batch's winner of its name. -/
theorem exists_le_of_mem_validate (h : rest.Sublist ds) (hr : r ∈ validate rest) :
    ∃ s ∈ validate ds, s.name = r.name ∧ r.updatedAt ≤ s.updatedAt := by
  have hmem := mem_converting_of_mem_validate h hr
  obtain ⟨s, hs, hname⟩ := exists_wins (converting ds) (List.mem_map_of_mem hmem)
  exact ⟨s, (mem_validate_iff ds s).mpr hs, hname, hs.le hmem hname.symm⟩

/-- What is left of a batch makes all its routes if it loses no name and makes no other routes. -/
theorem validate_perm_of_subset (hsub : validate rest ⊆ validate ds)
    (h : ∀ r ∈ validate ds, r.name ∈ (validate rest).map Route.name) :
    (validate ds).Perm (validate rest) := by
  refine (List.perm_ext_iff_of_nodup (nodup_names_validate ds).of_map
    (nodup_names_validate rest).of_map).mpr fun r => ⟨fun hr => ?_, fun hr => hsub hr⟩
  obtain ⟨s, hs, hname⟩ := List.mem_map.mp (h r hr)
  rwa [← List.inj_on_of_nodup_map (nodup_names_validate ds) (hsub hs) hr hname]

end
end Batch

namespace Snapshot
variable {s : Snapshot} {m : Contents} {fetched : List Route}

/-- A table's routes are a list of routes of different names, in the order of these, if the two have
the same members. -/
theorem Holds.routes_perm (hs : s.Holds m) (hf : (fetched.map Route.name).Nodup)
    (hmem : ∀ r, r ∈ s.routes ↔ r ∈ fetched) : s.routes.Perm fetched :=
  (List.perm_ext_iff_of_nodup hs.nodup_names_routes.of_map hf.of_map).mpr hmem

theorem Holds.exists_holds_reconcile (hs : s.Holds m) (fetched : List Route) :
    ∃ m', (s.reconcile fetched).Holds m' := by
  by_cases h : ∀ r ∈ s.routes, r.name ∈ fetched.map Route.name
  · exact ⟨_, hs.reconcile_of_covered h⟩
  · push Not at h
    exact ⟨_, reconcile_of_missing h⟩

/-- An empty table takes in all that is fetched. -/
theorem mem_routes_reconcile_empty (hf : (fetched.map Route.name).Nodup) (r : Route) :
    r ∈ (empty.reconcile fetched).routes ↔ r ∈ fetched := by
  have hnone : ∀ r ∈ empty.routes, r.name ∈ fetched.map Route.name := by
    intro r hr
    cases (holds_empty.mem_routes_iff r).mp hr
  have hnews : empty.news fetched = fetched :=
    List.filter_eq_self.mpr fun r _ => decide_eq_true fun old hold => nomatch hold
  have hholds := holds_empty.reconcile_of_covered hnone
  rw [hnews] at hholds
  exact hholds.mem_routes_iff_of_foldl_put hf r

/-- A list that brings no news and has all names of a table leaves the table as it is. -/
theorem reconcile_eq_self (hcovered : ∀ r ∈ s.routes, r.name ∈ fetched.map Route.name)
    (hold : ∀ r ∈ fetched, ¬s.IsNews r) : s.reconcile fetched = s := by
  rw [reconcile, diff_eq_none hcovered hold]

/-- The table of a batch, and then of what is left of the batch. -/
def afterRemoval (ds rest : List Definition) : Snapshot :=
  (empty.reconcile (Batch.validate ds)).reconcile (Batch.validate rest)

section
variable {ds rest : List Definition}

theorem mem_routes_of_batch (ds : List Definition) (r : Route) :
    r ∈ (empty.reconcile (Batch.validate ds)).routes ↔ r ∈ Batch.validate ds :=
  mem_routes_reconcile_empty (Batch.nodup_names_validate ds) r

theorem holds_of_batch (ds : List Definition) :
    ∃ m, (empty.reconcile (Batch.validate ds)).Holds m :=
  holds_empty.exists_holds_reconcile (Batch.validate ds)

theorem reconciled_afterRemoval (ds rest : List Definition) :
    (empty.reconcile (Batch.validate ds)).Reconciled (Batch.validate rest)
      (afterRemoval ds rest) := by
  obtain ⟨m, hm⟩ := holds_of_batch ds
  exact hm.reconciled (Batch.nodup_names_validate rest)

/-- Where a name is lost the rest of the batch is the whole table. -/
theorem mem_afterRemoval_of_lost
    (h : ∃ r ∈ Batch.validate ds, r.name ∉ (Batch.validate rest).map Route.name) (r : Route) :
    r ∈ (afterRemoval ds rest).routes ↔ r ∈ Batch.validate rest := by
  obtain ⟨a, ha, hlost⟩ := h
  exact ((reconciled_afterRemoval ds rest).replaces
    ⟨a, (mem_routes_of_batch ds a).mpr ha, hlost⟩).2 r

/-- Where none is lost nothing changes, for what is left of a batch is never newer. -/
theorem afterRemoval_of_kept (hsub : rest.Sublist ds)
    (h : ∀ r ∈ Batch.validate ds, r.name ∈ (Batch.validate rest).map Route.name) :
    afterRemoval ds rest = empty.reconcile (Batch.validate ds) := by
  obtain ⟨m, hm⟩ := holds_of_batch ds
  refine reconcile_eq_self (fun r hr => h r ((mem_routes_of_batch ds r).mp hr)) fun r hr hnews => ?_
  obtain ⟨s, hs, hname, hle⟩ := Batch.exists_le_of_mem_validate hsub hr
  have hget : (empty.reconcile (Batch.validate ds)).get? r.name = some s := by
    rw [← hname, ← hm.has_iff, ← hm.mem_routes_iff, mem_routes_of_batch]
    exact hs
  exact absurd (hnews s hget) (not_lt.mpr hle)

/-- After definitions were removed from a batch, names that none of the others has are gone. All
routes are those of the rest if some name is gone, and those of the whole batch if none is, so that
a removed definition is still served if others of its name are left that are not newer. -/
theorem routes_after_removal (hsub : rest.Sublist ds) :
    ((afterRemoval ds rest).routes.map Route.name).Perm ((Batch.validate rest).map Route.name) ∧
    ((∃ r ∈ Batch.validate ds, r.name ∉ (Batch.validate rest).map Route.name) →
      (afterRemoval ds rest).routes.Perm (Batch.validate rest)) ∧
    ((∀ r ∈ Batch.validate ds, r.name ∈ (Batch.validate rest).map Route.name) →
      (afterRemoval ds rest).routes.Perm (Batch.validate ds)) ∧
    ((afterRemoval ds rest).routes.Perm (Batch.validate rest) ↔
      (∃ r ∈ Batch.validate ds, r.name ∉ (Batch.validate rest).map Route.name) ∨
        Batch.validate rest ⊆ Batch.validate ds) := by
  obtain ⟨m, hm⟩ := holds_of_batch ds
  obtain ⟨m', hm'⟩ := hm.exists_holds_reconcile (Batch.validate rest)
  have hlost (h : ∃ r ∈ Batch.validate ds, r.name ∉ (Batch.validate rest).map Route.name) :
      (afterRemoval ds rest).routes.Perm (Batch.validate rest) :=
    hm'.routes_perm (Batch.nodup_names_validate rest) (mem_afterRemoval_of_lost h)
  have hkept (h : ∀ r ∈ Batch.validate ds, r.name ∈ (Batch.validate rest).map Route.name) :
      (afterRemoval ds rest).routes.Perm (Batch.validate ds) := by
    rw [afterRemoval_of_kept hsub h]
    exact hm.routes_perm (Batch.nodup_names_validate ds) (mem_routes_of_batch ds)
  have hnames := (reconciled_afterRemoval ds rest).names
  refine ⟨hnames, hlost, hkept, fun hperm => ?_, ?_⟩
  · by_cases h : ∀ r ∈ Batch.validate ds, r.name ∈ (Batch.validate rest).map Route.name
    · exact Or.inr fun r hr => (hkept h).mem_iff.mp (hperm.mem_iff.mpr hr)
    · push Not at h
      exact Or.inl h
  · rintro (h | hsubset)
    · exact hlost h
    · by_cases h : ∀ r ∈ Batch.validate ds, r.name ∈ (Batch.validate rest).map Route.name
      · exact (hkept h).trans (Batch.validate_perm_of_subset hsubset h)
      · push Not at h
        exact hlost h

end

/-- One of several definitions of a name, each to a port of its own. -/
def version (port : String) (updatedAt : Int) : Definition :=
  ⟨"dup", none, ⟨none, some "/dup", none, []⟩, none, none, "http://[::1]:" ++ port, false, none,
    updatedAt⟩

/-- What such a definition makes. -/
def versionRoute (port : Nat) (updatedAt : Int) : Route :=
  { Route.plain "dup" ⟨none, some "/dup", none, none⟩ with
    target := ⟨"http", some ⟨"", none, some (.ipv6 [0, 0, 0, 0, 0, 0, 0, 1]), some port⟩, "/", none,
      none⟩
    updatedAt := updatedAt }

/-- The only definition of its name. -/
def single : Definition :=
  ⟨"api", none, ⟨none, some "/api", none, []⟩, none, none, "http://[::1]", false, none, 0⟩

theorem validate_older : Batch.validate [version "3" 3] = [versionRoute 3 3] := rfl

/-- The lost name brings in the older version too. -/
theorem routes_after_removal_of_single :
    [version "3" 3].Sublist [version "5" 5, single, version "3" 3] ∧
      (afterRemoval [version "5" 5, single, version "3" 3] [version "3" 3]).routes.Perm
        [versionRoute 3 3] := by
  have hsub : [version "3" 3].Sublist [version "5" 5, single, version "3" 3] := by simp
  have hds : Batch.validate [version "5" 5, single, version "3" 3] =
      [versionRoute 5 5, .plain "api" ⟨none, some "/api", none, none⟩] := rfl
  obtain ⟨-, hlost, -⟩ := routes_after_removal hsub
  rw [hds, validate_older] at hlost
  refine ⟨hsub, hlost ⟨_, List.mem_cons_of_mem _ (List.mem_singleton_self _), ?_⟩⟩
  decide

/-- With its name still there, the removed definition's route is served and not the one that is
left. -/
theorem removed_version_served :
    [version "3" 3].Sublist [version "5" 5, version "3" 3] ∧
      Batch.validate [version "3" 3] = [versionRoute 3 3] ∧
      (afterRemoval [version "5" 5, version "3" 3] [version "3" 3]).routes = [versionRoute 5 5] := by
  have hsub : [version "3" 3].Sublist [version "5" 5, version "3" 3] := by simp
  have hds : Batch.validate [version "5" 5, version "3" 3] = [versionRoute 5 5] := rfl
  refine ⟨hsub, validate_older, ?_⟩
  obtain ⟨m, hm⟩ := holds_of_batch [version "5" 5, version "3" 3]
  rw [afterRemoval_of_kept hsub, ← List.perm_singleton]
  · refine hm.routes_perm (List.nodup_singleton _) fun r => ?_
    rw [mem_routes_of_batch, hds]
  · rw [hds, validate_older]
    decide

end Snapshot
end Gateway
