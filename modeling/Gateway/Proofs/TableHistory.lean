import Gateway.Proofs.SnapshotInvariant

/-! # Histories of a table: of all that happened to it, only the routes that are left show -/
namespace Gateway

/-- What can happen to a table. -/
inductive Operation
  /-- The table is made from routes, or is given them for all that it held. -/
  | load (routes : List Route)
  | add (route : Route)
  | apply (change : Change)

namespace Operation

def run (s : Snapshot) : Operation → Snapshot
  | load rs => .build rs
  | add r => s.withRoute r
  | apply c => s.apply c

/-- What an operation does to the map of routes. -/
def perform (m : Contents) : Operation → Contents
  | load rs | apply (.replace rs) => rs.foldl .put .empty
  | add r => m.put r
  | apply (.upsert rs) => rs.foldl .put m

/-- The routes that an operation brings. -/
def routes : Operation → List Route
  | load rs | apply (.replace rs) | apply (.upsert rs) => rs
  | add r => [r]

/-- The table after a history that starts with none. -/
def after (ops : List Operation) : Snapshot := ops.foldl run .empty

/-- The map after a history. -/
def contents (ops : List Operation) : Contents := ops.foldl perform .empty

end Operation

namespace Snapshot

theorem holds_build (rs : List Route) : (build rs).Holds (rs.foldl Contents.put Contents.empty) :=
  holds_empty.foldl_withRoute rs

theorem Holds.run {s : Snapshot} {m : Contents} (h : s.Holds m) (o : Operation) :
    (o.run s).Holds (o.perform m) := by
  cases o with
  | load rs => exact holds_build rs
  | add r => exact h.withRoute r
  | apply c =>
    cases c with
    | upsert rs => exact h.foldl_withRoute rs
    | replace rs => exact holds_build rs

end Snapshot

namespace Operation

theorem holds_foldl {s : Snapshot} {m : Contents} (h : s.Holds m) (ops : List Operation) :
    (ops.foldl run s).Holds (ops.foldl perform m) := by
  induction ops generalizing s m with
  | nil => exact h
  | cons o ops ih => exact ih (h.run o)

/-- After any history the table holds the map that the same history leaves. -/
theorem holds_after (ops : List Operation) : (after ops).Holds (contents ops) :=
  holds_foldl Snapshot.holds_empty ops

end Operation

/-- A route with a rule and nothing else, to the host itself. -/
def Route.plain (name : String) (rule : Rule) : Route where
  name := name
  description := none
  rule := rule
  target := ⟨"http", some ⟨"", none, some (.ipv6 [0, 0, 0, 0, 0, 0, 0, 1]), none⟩, "/", none, none⟩
  stripPrefix := false
  authentication := .none
  timeout := Route.defaultTimeout
  updatedAt := 0

namespace Contents

/-- A list of all the routes of a map, in any order. -/
structure ListedBy (m : Contents) (rs : List Route) : Prop where
  nodup_names : (rs.map Route.name).Nodup
  mem_iff : ∀ r, r ∈ rs ↔ m.Has r

theorem foldl_put_of_not_mem {n : String} {rs : List Route} (h : n ∉ rs.map Route.name)
    (m : Contents) : rs.foldl put m n = m n := by
  induction rs generalizing m with
  | nil => rfl
  | cons r rs ih =>
    rw [List.map_cons, List.mem_cons, not_or] at h
    rw [List.foldl_cons, ih h.2, put, Function.update_of_ne h.1]

theorem foldl_put_of_mem {r : Route} {rs : List Route} (h : (rs.map Route.name).Nodup)
    (hr : r ∈ rs) (m : Contents) : rs.foldl put m r.name = some r := by
  induction rs generalizing m with
  | nil => simp at hr
  | cons a rs ih =>
    obtain ⟨ha, h⟩ := List.nodup_cons.mp h
    rcases List.mem_cons.mp hr with rfl | hr
    · rw [List.foldl_cons, foldl_put_of_not_mem ha, put, Function.update_self]
    · rw [List.foldl_cons, ih h hr]

theorem mem_of_has_foldl_put {m : Contents} {r : Route} {rs : List Route}
    (h : (rs.foldl put m).Has r) : m.Has r ∨ r ∈ rs := by
  induction rs generalizing m with
  | nil => exact Or.inl h
  | cons a rs ih =>
    rcases ih h with hput | hr
    · rcases (has_put_iff m a r).mp hput with ⟨hm, -⟩ | rfl
      · exact Or.inl hm
      · exact Or.inr List.mem_cons_self
    · exact Or.inr (List.mem_cons_of_mem a hr)

/-- A map is made again from any list of its routes. -/
theorem ListedBy.foldl_put {m : Contents} {rs : List Route} (h : m.ListedBy rs)
    (hname : ∀ n r, m n = some r → r.name = n) : rs.foldl put empty = m := by
  funext n
  by_cases hn : n ∈ rs.map Route.name
  · obtain ⟨r, hr, rfl⟩ := List.mem_map.mp hn
    rw [foldl_put_of_mem h.nodup_names hr, (h.mem_iff r).mp hr]
  · rw [foldl_put_of_not_mem hn]
    cases hm : m n with
    | none => rfl
    | some r =>
      have hnr := hname n r hm
      subst hnr
      exact absurd (List.mem_map_of_mem ((h.mem_iff r).mpr hm)) hn

end Contents

namespace Operation

theorem mem_of_has_perform {m : Contents} {r : Route} {o : Operation} (h : (o.perform m).Has r) :
    m.Has r ∨ r ∈ o.routes := by
  have hempty : ¬Contents.empty.Has r := fun h => nomatch h
  cases o with
  | load rs => exact Or.inr ((Contents.mem_of_has_foldl_put h).resolve_left hempty)
  | add a =>
    rcases (Contents.has_put_iff m a r).mp h with ⟨hm, -⟩ | rfl
    · exact Or.inl hm
    · exact Or.inr (List.mem_singleton_self r)
  | apply c =>
    cases c with
    | upsert rs => exact Contents.mem_of_has_foldl_put h
    | replace rs => exact Or.inr ((Contents.mem_of_has_foldl_put h).resolve_left hempty)

/-- A history leaves no route that none of its operations brought. -/
theorem mem_routes_of_has {ops : List Operation} {r : Route} (h : (contents ops).Has r) :
    ∃ o ∈ ops, r ∈ o.routes := by
  have hfold : ∀ m : Contents, (ops.foldl perform m).Has r → m.Has r ∨ ∃ o ∈ ops, r ∈ o.routes := by
    clear h
    induction ops with
    | nil => exact fun m hm => Or.inl hm
    | cons o ops ih =>
      intro m hm
      rcases ih (o.perform m) hm with ho | ⟨o', ho', hr⟩
      · rcases mem_of_has_perform ho with hm | hr
        · exact Or.inl hm
        · exact Or.inr ⟨o, List.mem_cons_self, hr⟩
      · exact Or.inr ⟨o', List.mem_cons_of_mem o ho', hr⟩
  exact (hfold .empty h).resolve_left fun h => nomatch h

/-- There is a list of all the routes of a map after every history: the one that the table gives. -/
theorem listedBy_routes (ops : List Operation) : (contents ops).ListedBy (after ops).routes := by
  have hs := holds_after ops
  exact ⟨hs.nodup_names_routes, hs.mem_routes_iff⟩

/-- Whatever happened to a table, it answers as one built anew from the routes that are left, taken
in any order: by name, as a list in the order of names, by number and for every request. -/
theorem after_eq_build (ops : List Operation) (rs : List Route) (h : (contents ops).ListedBy rs) :
    (∀ n, (after ops).get? n = contents ops n ∧ (Snapshot.build rs).get? n = contents ops n) ∧
      (after ops).routes = (Snapshot.build rs).routes ∧
      (after ops).routes.Pairwise (fun a b => a.name < b.name) ∧
      (after ops).size = (Snapshot.build rs).size ∧
      ∀ (ps : Patterns) (l : Lookup),
        (after ops).resolve ps l = (Snapshot.build rs).resolve ps l ∧
          (after ops).matchRules ps l = (Snapshot.build rs).matchRules ps l := by
  have hs := holds_after ops
  have hb : (Snapshot.build rs).Holds (contents ops) := by
    rw [← h.foldl_put hs.name_eq]
    exact Snapshot.holds_build rs
  have hroutes : (after ops).routes = (Snapshot.build rs).routes := hs.routes_eq hb
  refine ⟨fun n => ⟨hs.get?_eq n, hb.get?_eq n⟩, hroutes, hs.routes_sorted, ?_, fun ps l => ?_⟩
  · rw [Snapshot.size_eq, Snapshot.size_eq, hroutes]
  · exact ⟨hs.resolve_eq hb ps l, hs.matchRules_eq hb ps l⟩

/-- Two routes that leave their places: one is named twice in a batch and loses its host, the other
gets a host and a new prefix, and then has neither. -/
def moves : List Operation :=
  [load [.plain "api" ⟨none, some "/api", none, none⟩, .plain "web" ⟨some "h", none, none, none⟩],
    add (.plain "api" ⟨some "h", some "/v2", none, none⟩),
    apply (.upsert [.plain "web" ⟨none, some "/api/", none, none⟩,
      .plain "api" ⟨none, none, some "x", none⟩, .plain "web" ⟨none, some "/api", none, none⟩])]

theorem has_contents_moves_iff (r : Route) : (contents moves).Has r ↔
    r = .plain "web" ⟨none, some "/api", none, none⟩ ∨
      r = .plain "api" ⟨none, none, some "x", none⟩ := by
  have hempty : Contents.empty.Has r ↔ False := ⟨(fun h => nomatch h), False.elim⟩
  simp only [contents, moves, perform, Contents.has_put_iff, hempty, List.foldl_cons,
    List.foldl_nil]
  constructor
  · intro h
    grind [Route.plain]
  · rintro (rfl | rfl) <;> simp [Route.plain]

theorem after_moves_eq_build :
    (contents moves).ListedBy [.plain "web" ⟨none, some "/api", none, none⟩,
        .plain "api" ⟨none, none, some "x", none⟩] ∧
      (after moves).size = 2 ∧ (after moves).get? "web" =
        some (.plain "web" ⟨none, some "/api", none, none⟩) := by
  have h : (contents moves).ListedBy [.plain "web" ⟨none, some "/api", none, none⟩,
      .plain "api" ⟨none, none, some "x", none⟩] := by
    refine ⟨by decide, fun r => ?_⟩
    rw [has_contents_moves_iff, List.mem_cons, List.mem_singleton]
  obtain ⟨hget, -, -, hsize, -⟩ := after_eq_build moves _ h
  exact ⟨h, hsize.trans rfl, (hget "web").1.trans rfl⟩

end Operation
end Gateway
