import Gateway.Proofs.Resolution
import Gateway.Proofs.StableOrder

/-! # The index as a scan: it finds what a search through one list of all routes finds -/
namespace Gateway

namespace Route

/-- A list with a route at its end and no other one of its name. -/
def upsert (rs : List Route) (r : Route) : List Route := rs.filter (·.name != r.name) ++ [r]

/-- The routes of a list after some more were put to it. -/
def listed (rs puts : List Route) : List Route := puts.foldl upsert rs

/-- Whether a route is bound to the host of a request. -/
def isBoundTo (host : Option String) (r : Route) : Bool := r.host.isSome && decide (r.host = host)

theorem listed_concat (rs puts : List Route) (r : Route) :
    listed rs (puts ++ [r]) = upsert (listed rs puts) r := by
  rw [listed, List.foldl_append, List.foldl_cons, List.foldl_nil, listed]

/-- A route comes in for all of its name, so that no name comes in twice. -/
theorem nodup_names_listed {rs : List Route} (h : (rs.map name).Nodup) (puts : List Route) :
    ((listed rs puts).map name).Nodup := by
  induction puts using List.reverseRecOn with
  | nil => exact h
  | append_singleton puts r ih =>
    rw [listed_concat, upsert, List.map_append, List.map_singleton]
    refine List.nodup_append.mpr
      ⟨ih.sublist (List.filter_sublist.map _), List.nodup_singleton _, ?_⟩
    intro n hn m hm
    obtain ⟨a, ha, rfl⟩ := List.mem_map.mp hn
    rw [List.mem_singleton.mp hm]
    exact bne_iff_ne.mp (List.mem_filter.mp ha).2

end Route

namespace Index
open Route

/-- The index made from routes, after some more were put to it. -/
def after (rs puts : List Route) : Index := puts.foldl (fun x r => x.withRoute r) (build rs)

/-- An index of a list has the routes of every host in order. -/
structure Indexes (x : Index) (rs : List Route) : Prop where
  nodup_hosts : (Assoc.keys x.byHost).Nodup
  grouped : ∀ host, StablyOrders (rs.filter (·.host = host)) (x.groupAt host)

theorem nodup_foldl_push {x : Index} (hx : (Assoc.keys x.byHost).Nodup) (rs : List Route) :
    (Assoc.keys (rs.foldl (fun x r => x.push r) x).byHost).Nodup := by
  induction rs generalizing x with
  | nil => exact hx
  | cons r rs ih => exact ih (nodup_push hx r)

theorem groupAt_foldl_push (rs : List Route) (host : Option String) (x : Index) :
    (rs.foldl (fun x r => x.push r) x).groupAt host =
      x.groupAt host ++ rs.filter (·.host = host) := by
  induction rs generalizing x with
  | nil => simp
  | cons r rs ih =>
    rw [List.foldl_cons, ih, groupAt_push]
    by_cases h : host = r.host
    · simp [h]
    · simp [h, Ne.symm h]

theorem indexes_build (rs : List Route) : (build rs).Indexes rs := by
  refine ⟨?_, fun host => ?_⟩
  · rw [build, sort, Assoc.keys_map]
    exact nodup_foldl_push (x := empty) List.nodup_nil rs
  · have hempty : empty.groupAt host = [] := by cases host <;> rfl
    rw [build, groupAt_sort, groupAt_foldl_push, hempty, List.nil_append]
    exact .bySpecificity _

theorem Indexes.withRoute {x : Index} {rs : List Route} (h : x.Indexes rs) (r : Route) :
    (x.withRoute r).Indexes (upsert rs r) := by
  refine ⟨nodup_withRoute h.nodup_hosts r, fun host => ?_⟩
  have hkept := (h.grouped host).filter (·.name != r.name)
  rw [List.filter_comm] at hkept
  rw [groupAt_withRoute h.nodup_hosts, upsert, List.filter_append]
  by_cases hhost : host = r.host
  · rw [if_pos hhost, List.filter_cons_of_pos (by simp [hhost])]
    exact hkept.concat r
  · rw [if_neg hhost, List.filter_cons_of_neg (by simp [Ne.symm hhost])]
    simpa using hkept.resort

theorem indexes_after (rs puts : List Route) : (after rs puts).Indexes (listed rs puts) := by
  induction puts using List.reverseRecOn with
  | nil => exact indexes_build rs
  | append_singleton puts r ih =>
    rw [listed_concat, after, List.foldl_append]
    exact ih.withRoute r

theorem filter_isBoundTo_none (rs : List Route) : rs.filter (isBoundTo none) = [] := by
  rw [List.filter_eq_nil_iff]
  intro r _
  cases hr : r.host <;> simp [isBoundTo, hr]

theorem filter_isBoundTo_some (host : String) (rs : List Route) :
    rs.filter (isBoundTo (some host)) = rs.filter (·.host = some host) := by
  refine List.filter_congr fun r _ => ?_
  cases hr : r.host <;> simp [isBoundTo, hr]

/-- A search goes through the routes of the request's host, and then through those bound to none. -/
theorem Indexes.find?_eq {x : Index} {rs : List Route} (h : x.Indexes rs) (ps : Patterns)
    (l : Lookup) : ∃ bound free,
      StablyOrders (rs.filter (isBoundTo l.host)) bound ∧
      StablyOrders (rs.filter (·.host = none)) free ∧
      x.find? ps l = (bound.find? (·.admits ps l)).or (free.find? (·.admits ps l)) := by
  refine ⟨x.ofHost l.host, x.anyHost, ?_, h.grouped none, ?_⟩
  · cases l.host with
    | none =>
      rw [filter_isBoundTo_none]
      exact ⟨List.Pairwise.nil, fun _ => rfl⟩
    | some host =>
      rw [filter_isBoundTo_some]
      exact h.grouped (some host)
  · rw [find?, List.find?_append]

/-- A search finds nothing only where no route admits the request: one that is bound to another
host does not. -/
theorem Indexes.find?_eq_none_iff {x : Index} {rs : List Route} (h : x.Indexes rs) (ps : Patterns)
    (l : Lookup) : x.find? ps l = none ↔ ∀ r ∈ rs, r.admits ps l ≠ true := by
  obtain ⟨bound, free, hbound, hfree, heq⟩ := h.find?_eq ps l
  rw [heq, Option.or_eq_none_iff, List.find?_eq_none, List.find?_eq_none]
  simp only [hbound.mem_iff, hfree.mem_iff, List.mem_filter]
  constructor
  · rintro ⟨hb, hf⟩ r hr hadmits
    cases hhost : r.host with
    | none => exact hf r ⟨hr, by simp [hhost]⟩ hadmits
    | some k =>
      have hl : l.host = some k := ((admits_iff ps l r).mp hadmits).1 k hhost
      exact hb r ⟨hr, by simp [isBoundTo, hhost, hl]⟩ hadmits
  · intro hnone
    exact ⟨fun r hr => hnone r hr.1, fun r hr => hnone r hr.1⟩

/-- Where names differ, the order of the list does not show in the index. -/
theorem Indexes.groupAt_eq {x y : Index} {rs ts : List Route} (h : x.Indexes rs)
    (h' : y.Indexes ts) (hrs : (rs.map Route.name).Nodup) (hts : (ts.map Route.name).Nodup)
    (hsame : ∀ r, r ∈ rs ↔ r ∈ ts) (host : Option String) : x.groupAt host = y.groupAt host := by
  have hlists := (h.grouped host).lists (hrs.sublist (List.filter_sublist.map _))
  have hlists' := (h'.grouped host).lists (hts.sublist (List.filter_sublist.map _))
  refine hlists.unique (hlists'.congr fun r => ?_)
  rw [List.mem_filter, List.mem_filter, hsame]

theorem Indexes.find?_congr {x y : Index} {rs ts : List Route} (h : x.Indexes rs)
    (h' : y.Indexes ts) (hrs : (rs.map Route.name).Nodup) (hts : (ts.map Route.name).Nodup)
    (hsame : ∀ r, r ∈ rs ↔ r ∈ ts) (ps : Patterns) (l : Lookup) : x.find? ps l = y.find? ps l := by
  have hgroup := h.groupAt_eq h' hrs hts hsame
  have hnone : x.anyHost = y.anyHost := hgroup none
  rw [find?, find?, ofHost_eq, ofHost_eq, hnone]
  simp only [hgroup]

/-- The index finds what a search through one list finds, in which a route that is put takes the
place of all of its name: the first that admits the request among those bound to its host, in the
one order there is by specificity that leaves level routes as they stand, or else among those bound
to none, and nothing only where none of the list admits it. Where names differ, lists of the same
routes give the same answers. -/
theorem search_after (rs puts : List Route) (ps : Patterns) (l : Lookup) :
    (∃ bound free,
      (∀ ts, StablyOrders ((listed rs puts).filter (isBoundTo l.host)) ts ↔ ts = bound) ∧
      (∀ ts, StablyOrders ((listed rs puts).filter (·.host = none)) ts ↔ ts = free) ∧
      (after rs puts).find? ps l =
        (bound.find? (·.admits ps l)).or (free.find? (·.admits ps l))) ∧
    ((after rs puts).find? ps l = none ↔ ∀ r ∈ listed rs puts, r.admits ps l ≠ true) ∧
    ∀ rs' puts', ((listed rs puts).map Route.name).Nodup →
      ((listed rs' puts').map Route.name).Nodup →
      (∀ r, r ∈ listed rs puts ↔ r ∈ listed rs' puts') →
      (after rs puts).find? ps l = (after rs' puts').find? ps l := by
  have h := indexes_after rs puts
  refine ⟨?_, h.find?_eq_none_iff ps l, fun rs' puts' hrs hrs' hsame => ?_⟩
  · obtain ⟨bound, free, hbound, hfree, heq⟩ := h.find?_eq ps l
    exact ⟨bound, free, hbound.iff_eq, hfree.iff_eq, heq⟩
  · exact h.find?_congr (indexes_after rs' puts') hrs hrs' hsame ps l

/-- Three routes in two orders, one of them put twice in the second. -/
theorem search_after_reordered :
    let api := Route.plain "api" ⟨none, some "/api", none, none⟩
    let web := Route.plain "web" ⟨some "h", some "/", none, none⟩
    let all := Route.plain "all" ⟨none, none, some "x", none⟩
    ((listed [api, web] [all]).map Route.name).Nodup ∧
      ((listed [all, .plain "web" ⟨none, some "/w", none, none⟩] [web, api]).map Route.name).Nodup ∧
      ∀ ps l, (after [api, web] [all]).find? ps l =
        (after [all, .plain "web" ⟨none, some "/w", none, none⟩] [web, api]).find? ps l := by
  intro api web all
  have hnodup : ((listed [api, web] [all]).map Route.name).Nodup :=
    nodup_names_listed (by decide) [all]
  have hnodup' : ((listed [all, .plain "web" ⟨none, some "/w", none, none⟩] [web, api]).map
      Route.name).Nodup := nodup_names_listed (by decide) [web, api]
  refine ⟨hnodup, hnodup', fun ps l => ?_⟩
  refine (search_after [api, web] [all] ps l).2.2 _ _ hnodup hnodup' fun r => ?_
  have hlisted : listed [api, web] [all] = [api, web, all] := by decide +kernel
  have hlisted' : listed [all, .plain "web" ⟨none, some "/w", none, none⟩] [web, api] =
      [all, web, api] := by decide +kernel
  rw [hlisted, hlisted']
  simp only [List.mem_cons, List.not_mem_nil, or_false]
  tauto

end Index
end Gateway
