import Gateway.Proofs.Prefixes
import Gateway.Proofs.TableHistory
import Gateway.Proofs.Validated

/-! # Resolution: the walk through the scopes finds the first route of the declared order -/
namespace Gateway
open Text

namespace Route

/-- A route that may answer a request, told without scopes and tries: what it asks for is there,
and its prefix, if any, ends where a segment of the path ends. -/
structure Serves (ps : Patterns) (l : Lookup) (r : Route) : Prop where
  host : ∀ h, r.rule.host = some h → l.host = some h
  bytes : ∀ p, r.rule.pathPrefix = some p → utf8 p <+: utf8 l.path
  segments : ∀ p, r.rule.pathPrefix = some p → segments p <+: segments l.path
  pattern : ∀ t, r.rule.pattern = some t → ∃ test, ps t = some test ∧ test l.path = true
  methods : ∀ vs, r.rule.methods = some vs → ∃ v ∈ vs, v.name = l.method

/-- The declared order: routes bound to a host before the others, and then the lowest rank. -/
def preference (r : Route) : Bool ×ₗ ℕᵒᵈ ×ₗ Bool ×ₗ Bool ×ₗ String :=
  toLex (r.rule.host.isNone, r.rank)

theorem preference_lt_iff (a b : Route) :
    a.preference < b.preference ↔ a.rule.host.isNone < b.rule.host.isNone ∨
      a.rule.host.isNone = b.rule.host.isNone ∧ a.rank < b.rank := by
  rw [preference, preference, Prod.Lex.toLex_lt_toLex]

theorem rank_lt_of_prefixLength_lt {a b : Route} (h : b.prefixLength < a.prefixLength) :
    a.rank < b.rank := by
  rw [← not_le, rank_le_iff]
  omega

/-- A route admits the requests for which each of its conditions holds. -/
theorem admits_iff (ps : Patterns) (l : Lookup) (r : Route) :
    r.admits ps l = true ↔
      (∀ h, r.rule.host = some h → l.host = some h) ∧
      (∀ p, r.rule.pathPrefix = some p → p.toList <+: l.path.toList) ∧
      (∀ t, r.rule.pattern = some t → ∃ test, ps t = some test ∧ test l.path = true) ∧
      ∀ vs, r.rule.methods = some vs → ∃ v ∈ vs, v.name = l.method := by
  have hpattern : (r.rule.isReadable ps = true ∧ ∀ t, r.rule.pattern = some t →
      (Condition.pattern t).holds ps l = true) ↔
      ∀ t, r.rule.pattern = some t → ∃ test, ps t = some test ∧ test l.path = true := by
    rw [Rule.isReadable]
    cases r.rule.pattern with
    | none => simp
    | some t => cases ht : ps t <;> simp [Condition.holds, ht]
  have hrule : r.rule.admits ps l = true ↔
      (∀ h, r.rule.host = some h → l.host = some h) ∧
      (∀ p, r.rule.pathPrefix = some p → p.toList <+: l.path.toList) ∧
      (∀ t, r.rule.pattern = some t → (Condition.pattern t).holds ps l = true) ∧
      ∀ vs, r.rule.methods = some vs → ∃ v ∈ vs, v.name = l.method := by
    rw [Rule.admits, Rule.conditions]
    cases r.rule.host <;> cases r.rule.pathPrefix <;> cases r.rule.pattern <;>
      cases r.rule.methods <;> simp [Condition.holds, Verb.accepts]
  rw [admits, Bool.and_eq_true, hrule, ← hpattern]
  constructor
  · rintro ⟨hread, hhost, hpre, htext, hmethods⟩
    exact ⟨hhost, hpre, ⟨hread, htext⟩, hmethods⟩
  · rintro ⟨hhost, hpre, ⟨hread, htext⟩, hmethods⟩
    exact ⟨hread, hhost, hpre, htext, hmethods⟩

/-- Serving asks for more than admitting does: the prefix has to end with a segment. -/
theorem serves_iff (ps : Patterns) (l : Lookup) (r : Route) :
    r.Serves ps l ↔ r.admits ps l = true ∧
      ∀ p, r.rule.pathPrefix = some p → segments p <+: segments l.path := by
  rw [admits_iff]
  constructor
  · intro h
    refine ⟨⟨h.host, fun p hp => ?_, h.pattern, h.methods⟩, h.segments⟩
    exact (utf8_isPrefix_iff p l.path).mp (h.bytes p hp)
  · rintro ⟨⟨hhost, hpre, hpattern, hmethods⟩, hsegments⟩
    exact ⟨hhost, fun p hp => (utf8_isPrefix_iff p l.path).mpr (hpre p hp), hsegments, hpattern,
      hmethods⟩

theorem prefixLength_of_none {r : Route} (h : r.pathPrefix = none) : r.prefixLength = 0 := by
  rw [prefixLength, h]
  rfl

theorem prefixLength_of_some {r : Route} {p : String} (h : r.pathPrefix = some p) :
    r.prefixLength = p.utf8ByteSize := by
  rw [prefixLength, h]
  rfl

/-- A validated prefix has at least its slash. -/
theorem IsValidated.prefixLength_pos {r : Route} (h : r.IsValidated) {p : String}
    (hp : r.pathPrefix = some p) : 0 < r.prefixLength := by
  rw [prefixLength_of_some hp]
  refine utf8ByteSize_pos ?_
  rintro rfl
  exact nomatch h.prefix_head hp

theorem place_eq_some_iff (r : Route) (ss : List String) :
    r.place = some ss ↔ ∃ p, r.pathPrefix = some p ∧ segments p = ss := by
  rw [place, Option.map_eq_some_iff]

/-- Of two routes that admit a request, the one that stands deeper has the longer prefix. -/
theorem rank_lt_of_deeper {ps : Patterns} {l : Lookup} {a b : Route} {ss ts : List String}
    (ha : a.admits ps l = true) (hb : b.admits ps l = true) (hss : a.place = some ss)
    (hts : b.place = some ts) (h : ts.length < ss.length) : a.rank < b.rank := by
  obtain ⟨p, hp, rfl⟩ := (place_eq_some_iff a ss).mp hss
  obtain ⟨q, hq, rfl⟩ := (place_eq_some_iff b ts).mp hts
  apply rank_lt_of_prefixLength_lt
  rw [prefixLength_of_some hp, prefixLength_of_some hq]
  exact utf8ByteSize_lt_of_segments (((admits_iff ps l b).mp hb).2.1 q hq)
    (((admits_iff ps l a).mp ha).2.1 p hp) h

end Route

/-- The first element with a property, in a list where elements with the property come by rising
keys, is the one with the least key. -/
theorem find?_eq_some_iff_least {α β : Type} [LinearOrder β] {test : α → Bool} {key : α → β}
    {xs : List α} (h : xs.Pairwise fun a b => test a = true → test b = true → key a < key b)
    (x : α) : xs.find? test = some x ↔
      x ∈ xs ∧ test x = true ∧ ∀ a ∈ xs, test a = true → key x ≤ key a := by
  induction xs with
  | nil => simp
  | cons y ys ih =>
    obtain ⟨hy, hys⟩ := List.pairwise_cons.mp h
    by_cases ht : test y = true
    · rw [List.find?_cons_of_pos ht, Option.some.injEq]
      constructor
      · rintro rfl
        refine ⟨List.mem_cons_self, ht, fun a ha hta => ?_⟩
        rcases List.mem_cons.mp ha with rfl | ha
        · exact le_rfl
        · exact (hy a ha ht hta).le
      · rintro ⟨hx, htx, hleast⟩
        rcases List.mem_cons.mp hx with rfl | hx
        · rfl
        · exact absurd (hleast y List.mem_cons_self ht) (hy x hx ht htx).not_ge
    · rw [List.find?_cons_of_neg ht, ih hys]
      have hne : ∀ {a : α}, test a = true → a ∈ y :: ys → a ∈ ys := fun hta ha =>
        (List.mem_cons.mp ha).resolve_left fun he => ht (he ▸ hta)
      constructor
      · rintro ⟨hx, htx, hleast⟩
        exact ⟨List.mem_cons_of_mem y hx, htx, fun a ha hta => hleast a (hne hta ha) hta⟩
      · rintro ⟨hx, htx, hleast⟩
        exact ⟨hne htx hx, htx, fun a ha hta => hleast a (List.mem_cons_of_mem y ha) hta⟩

namespace Snapshot.Holds
variable {s : Snapshot} {m : Contents}

/-- A path leads to the routes of a host whose prefix ends where one of its segments ends. -/
theorem mem_candidates_iff (h : s.Holds m) (host : Option String) (path : String) (r : Route) :
    r ∈ (s.scopeAt host).candidates path ↔ m.Has r ∧ r.host = host ∧
      ∀ p, r.pathPrefix = some p → segments p <+: segments path := by
  have hg : ∀ place, r ∈ (s.scopeAt host).groupAt place ↔
      m.Has r ∧ r.host = host ∧ r.place = place := fun place => (h.grouped host place).mem_iff r
  rw [Scope.candidates_eq, List.mem_append, List.mem_flatMap, hg]
  simp only [hg, List.mem_reverse, List.mem_inits]
  cases hp : r.pathPrefix with
  | none => simp [Route.place, hp]
  | some p =>
    simp only [Route.place, hp, Option.map_some, reduceCtorEq, and_false, or_false,
      Option.some.injEq, forall_eq']
    constructor
    · rintro ⟨ss, hss, hhas, hhost, rfl⟩
      exact ⟨hhas, hhost, hss⟩
    · rintro ⟨hhas, hhost, hss⟩
      exact ⟨segments p, hss, hhas, hhost, rfl⟩

/-- Deeper groups are tried first, and a prefix that is deeper on one path is longer. -/
theorem candidates_sorted (h : s.Holds m) (hv : ∀ r, m.Has r → r.IsValidated) (ps : Patterns)
    (l : Lookup) (host : Option String) :
    ((s.scopeAt host).candidates l.path).Pairwise fun a b =>
      a.admits ps l = true → b.admits ps l = true → a.rank < b.rank := by
  have hg : ∀ place a, a ∈ (s.scopeAt host).groupAt place → m.Has a ∧ a.place = place := by
    intro place a ha
    obtain ⟨hhas, -, hplace⟩ := ((h.grouped host place).mem_iff a).mp ha
    exact ⟨hhas, hplace⟩
  have hsorted : ∀ place, ((s.scopeAt host).groupAt place).Pairwise fun a b =>
      a.admits ps l = true → b.admits ps l = true → a.rank < b.rank := fun place =>
    (h.grouped host place).sorted.imp fun hab _ _ => hab
  rw [Scope.candidates_eq, List.pairwise_append, List.pairwise_flatMap]
  refine ⟨⟨fun ss _ => hsorted (some ss), ?_⟩, hsorted none, ?_⟩
  · refine List.pairwise_reverse.mpr ((pairwise_inits (segments l.path)).imp ?_)
    intro ts ss hlt a ha b hb hta htb
    exact Route.rank_lt_of_deeper hta htb (hg _ a ha).2 (hg _ b hb).2 hlt
  · intro a ha b hb _ _
    obtain ⟨ss, -, ha⟩ := List.mem_flatMap.mp ha
    obtain ⟨hhas, hplace⟩ := hg _ a ha
    obtain ⟨p, hp, -⟩ := (Route.place_eq_some_iff a ss).mp hplace
    apply Route.rank_lt_of_prefixLength_lt
    rw [Route.prefixLength_of_none (Option.map_eq_none_iff.mp (hg _ b hb).2)]
    exact (hv a hhas).prefixLength_pos hp

/-- What is tried for a request: the routes bound to its host or to none, if the path leads to
them. -/
theorem mem_tried_iff (h : s.Holds m) (l : Lookup) (r : Route) :
    r ∈ s.tried l ↔ m.Has r ∧ (∀ k, r.rule.host = some k → l.host = some k) ∧
      ∀ p, r.pathPrefix = some p → segments p <+: segments l.path := by
  rw [tried, List.mem_append, h.mem_candidates_iff]
  cases hl : l.host with
  | none => cases hr : r.rule.host <;> simp [Route.host, hr]
  | some k =>
    rw [Option.map_some, Option.getD_some, h.mem_candidates_iff]
    cases hr : r.rule.host <;> simp [Route.host, hr, eq_comm]

/-- The routes that admit a request are tried in the declared order. -/
theorem tried_sorted (h : s.Holds m) (hv : ∀ r, m.Has r → r.IsValidated) (ps : Patterns)
    (l : Lookup) : (s.tried l).Pairwise fun a b =>
      a.admits ps l = true → b.admits ps l = true → a.preference < b.preference := by
  have hhost : ∀ host a, a ∈ (s.scopeAt host).candidates l.path → a.rule.host = host :=
    fun host a ha => ((h.mem_candidates_iff host l.path a).mp ha).2.1
  have hsorted : ∀ host, ((s.scopeAt host).candidates l.path).Pairwise fun a b =>
      a.admits ps l = true → b.admits ps l = true → a.preference < b.preference := by
    intro host
    refine (h.candidates_sorted hv ps l host).imp_of_mem ?_
    intro a b ha hb hlt hta htb
    refine (Route.preference_lt_iff a b).mpr (Or.inr ⟨?_, hlt hta htb⟩)
    rw [hhost host a ha, hhost host b hb]
  rw [tried]
  cases l.host with
  | none => exact hsorted none
  | some k =>
    refine List.pairwise_append.mpr ⟨hsorted (some k), hsorted none, ?_⟩
    intro a ha b hb _ _
    refine (Route.preference_lt_iff a b).mpr (Or.inl ?_)
    rw [hhost _ a ha, hhost _ b hb]
    exact Bool.false_lt_true

theorem mem_tried_and_admits_iff (h : s.Holds m) (ps : Patterns) (l : Lookup) (r : Route) :
    (r ∈ s.tried l ∧ r.admits ps l = true) ↔ r ∈ s.routes ∧ r.Serves ps l := by
  rw [h.mem_tried_iff, h.mem_routes_iff, Route.serves_iff]
  constructor
  · rintro ⟨⟨hhas, -, hsegments⟩, hadmits⟩
    exact ⟨hhas, hadmits, hsegments⟩
  · rintro ⟨hhas, hadmits, hsegments⟩
    exact ⟨⟨hhas, ((Route.admits_iff ps l r).mp hadmits).1, hsegments⟩, hadmits⟩

/-- The walk through the scopes ends at the first route of the declared order. -/
theorem resolve_eq_some_iff (h : s.Holds m) (hv : ∀ r, m.Has r → r.IsValidated) (ps : Patterns)
    (l : Lookup) (r : Route) : s.resolve ps l = some r ↔
      r ∈ s.routes ∧ r.Serves ps l ∧
        ∀ a ∈ s.routes, a.Serves ps l → r.preference ≤ a.preference := by
  rw [resolve_eq_find?, find?_eq_some_iff_least (h.tried_sorted hv ps l), ← and_assoc,
    h.mem_tried_and_admits_iff, and_assoc]
  refine and_congr_right fun _ => and_congr_right fun _ => ?_
  constructor
  · intro hleast a ha hserves
    obtain ⟨hmem, hadmits⟩ := (h.mem_tried_and_admits_iff ps l a).mpr ⟨ha, hserves⟩
    exact hleast a hmem hadmits
  · intro hleast a hmem hadmits
    obtain ⟨ha, hserves⟩ := (h.mem_tried_and_admits_iff ps l a).mp ⟨hmem, hadmits⟩
    exact hleast a ha hserves

theorem resolve_eq_none_iff (h : s.Holds m) (ps : Patterns) (l : Lookup) :
    s.resolve ps l = none ↔ ∀ r ∈ s.routes, ¬r.Serves ps l := by
  rw [resolve_eq_find?, List.find?_eq_none]
  constructor
  · intro hnone r hr hserves
    obtain ⟨hmem, hadmits⟩ := (h.mem_tried_and_admits_iff ps l r).mpr ⟨hr, hserves⟩
    exact hnone r hmem hadmits
  · intro hnone r hmem hadmits
    obtain ⟨hr, hserves⟩ := (h.mem_tried_and_admits_iff ps l r).mp ⟨hmem, hadmits⟩
    exact hnone r hr hserves

end Snapshot.Holds

/-- A table of one route gives it to every request that it may serve. -/
theorem Snapshot.resolve_build_singleton {r : Route} (hv : r.IsValidated) {ps : Patterns}
    {l : Lookup} (h : r.Serves ps l) : (build [r]).resolve ps l = some r := by
  have hholds := holds_build [r]
  have hhas : ∀ a, ([r].foldl Contents.put Contents.empty).Has a ↔ a = r := by
    intro a
    rw [List.foldl_cons, List.foldl_nil, Contents.has_put_iff]
    exact or_iff_right fun hempty => nomatch hempty.1
  have hroutes : ∀ a, a ∈ (build [r]).routes ↔ a = r := fun a =>
    (hholds.mem_routes_iff a).trans (hhas a)
  refine (hholds.resolve_eq_some_iff (fun a ha => ?_) ps l r).mpr ⟨(hroutes r).mpr rfl, h, ?_⟩
  · rw [(hhas a).mp ha]
    exact hv
  · intro a ha _
    rw [(hroutes a).mp ha]

namespace Operation

/-- After any history of validated routes the table lists the routes that the history leaves, and a
request gets the one of the lowest preference among those of them that may serve it, and none only
when there is no such route. -/
theorem resolve_after (ops : List Operation) (hv : ∀ o ∈ ops, ∀ r ∈ o.routes, r.IsValidated)
    (ps : Patterns) (l : Lookup) :
    (contents ops).ListedBy (after ops).routes ∧
      (∀ r, (after ops).resolve ps l = some r ↔
        r ∈ (after ops).routes ∧ r.Serves ps l ∧
          ∀ a ∈ (after ops).routes, a.Serves ps l → r.preference ≤ a.preference) ∧
      ((after ops).resolve ps l = none ↔ ∀ r ∈ (after ops).routes, ¬r.Serves ps l) := by
  have hs := holds_after ops
  have hvalid : ∀ r, (contents ops).Has r → r.IsValidated := by
    intro r hr
    obtain ⟨o, ho, hmem⟩ := mem_routes_of_has hr
    exact hv o ho r hmem
  exact ⟨listedBy_routes ops, hs.resolve_eq_some_iff hvalid ps l, hs.resolve_eq_none_iff ps l⟩

theorem isValidated_of_mem_moves : ∀ o ∈ moves, ∀ r ∈ o.routes, r.IsValidated := by
  have hvalid (name : String) (block : MatchBlock) (r : Route)
      (h : Definition.validate ⟨name, none, block, none, none, "http://[::1]", false, none, 0⟩ =
        .ok r) : r.IsValidated := ⟨_, h⟩
  simp only [moves, routes, List.forall_mem_cons, List.not_mem_nil, false_implies, implies_true,
    and_true]
  exact ⟨⟨hvalid "api" ⟨none, some "/api", none, []⟩ _ rfl,
      hvalid "web" ⟨some "h", none, none, []⟩ _ rfl⟩,
    hvalid "api" ⟨some "h", some "/v2", none, []⟩ _ rfl,
    hvalid "web" ⟨none, some "/api/", none, []⟩ _ rfl,
    hvalid "api" ⟨none, none, some "x", []⟩ _ rfl,
    hvalid "web" ⟨none, some "/api", none, []⟩ _ rfl⟩

/-- Both routes that are left may serve a request below the prefix of one of them. -/
theorem serves_of_has_moves {r : Route} (h : (contents moves).Has r) :
    r.Serves (fun _ => some fun _ => true) ⟨some "h", "/api/x", "GET"⟩ := by
  rw [has_contents_moves_iff] at h
  rcases h with rfl | rfl
  · refine ⟨nofun, ?_, ?_, nofun, nofun⟩
    · rintro _ ⟨⟩
      exact (utf8_isPrefix_iff "/api" "/api/x").mpr (by decide)
    · rintro _ ⟨⟩
      decide
  · refine ⟨nofun, nofun, nofun, ?_, nofun⟩
    exact fun _ _ => ⟨_, rfl, rfl⟩

/-- Of two routes that may serve, the one with a prefix is found. A prefix that ends inside a
segment does not serve, although its bytes begin the path. -/
theorem resolve_after_moves :
    (∀ o ∈ moves, ∀ r ∈ o.routes, r.IsValidated) ∧
      (∀ r, (contents moves).Has r →
        r.Serves (fun _ => some fun _ => true) ⟨some "h", "/api/x", "GET"⟩) ∧
      (after moves).resolve (fun _ => some fun _ => true) ⟨some "h", "/api/x", "GET"⟩ =
        some (.plain "web" ⟨none, some "/api", none, none⟩) ∧
      (after moves).resolve (fun _ => none) ⟨some "h", "/apis", "GET"⟩ = none := by
  obtain ⟨hlisted, hfound, -⟩ := resolve_after moves isValidated_of_mem_moves
    (fun _ => some fun _ => true) ⟨some "h", "/api/x", "GET"⟩
  obtain ⟨-, -, hnone⟩ := resolve_after moves isValidated_of_mem_moves
    (fun _ => none) ⟨some "h", "/apis", "GET"⟩
  have hweb : (contents moves).Has (.plain "web" ⟨none, some "/api", none, none⟩) :=
    (has_contents_moves_iff _).mpr (.inl rfl)
  refine ⟨isValidated_of_mem_moves, fun _ hr => serves_of_has_moves hr,
    (hfound _).mpr ⟨?_, serves_of_has_moves hweb, ?_⟩, ?_⟩
  · exact (hlisted.mem_iff _).mpr hweb
  · intro a ha _
    rw [hlisted.mem_iff, has_contents_moves_iff] at ha
    rcases ha with rfl | rfl
    · exact le_rfl
    · refine le_of_lt ((Route.preference_lt_iff _ _).mpr (.inr ⟨?_, ?_⟩))
      · rfl
      · exact Route.rank_lt_of_prefixLength_lt (by decide)
  · refine hnone.mpr fun r hr hserves => ?_
    rw [hlisted.mem_iff, has_contents_moves_iff] at hr
    rcases hr with rfl | rfl
    · exact absurd (hserves.segments "/api" rfl) (by decide)
    · obtain ⟨_, hread, -⟩ := hserves.pattern "x" rfl
      exact nomatch hread

end Operation
end Gateway
