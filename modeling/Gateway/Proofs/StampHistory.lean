import Gateway.Proofs.ServiceMirror

/-! # The history behind a stamp: versions that records have of their own are not remembered -/
namespace Gateway
open RouteService

/-- A list that was served, and the routes that were made from it. -/
structure Issue where
  entries : List Json
  routes : List Route

namespace Issue

/-- The entry that asks for a stamp for a name. -/
def asking? (n : String) (i : Issue) : Option Json :=
  i.entries.find? fun e => decide (stampName? e = some n)

def route? (n : String) (i : Issue) : Option Route :=
  i.routes.find? fun r => decide (r.name = n)

variable {i : Issue} {n : String} {a : Json} {q : Route}

theorem mem_of_asking? (h : i.asking? n = some a) : a ∈ i.entries ∧ stampName? a = some n :=
  ⟨List.mem_of_find?_eq_some h, by simpa using List.find?_some h⟩

theorem mem_of_route? (h : i.route? n = some q) : q ∈ i.routes ∧ q.name = n :=
  ⟨List.mem_of_find?_eq_some h, by simpa using List.find?_some h⟩

theorem asking?_eq_none_iff : i.asking? n = none ↔ ∀ e ∈ i.entries, stampName? e ≠ some n := by
  simp [asking?]

theorem route?_eq_none_iff : i.route? n = none ↔ n ∉ i.routes.map Route.name := by
  simp [route?]

end Issue

/-- The last entry that asked for a stamp for a name, and the route that it got. Lists that have a
route of the name with a version of its own are passed over, but a list without one is where the
search ends. The newest list comes first. -/
def lastStamped (n : String) : List Issue → Option (Json × Route)
  | [] => none
  | i :: earlier =>
    match i.route? n, i.asking? n with
    | none, _ => none
    | some q, some a => some (a, q)
    | some _, none => lastStamped n earlier

section
variable {n : String} {i : Issue} {is earlier : List Issue} {a : Json} {q : Route}

theorem lastStamped_of_absent (h : i.route? n = none) : lastStamped n (i :: earlier) = none := by
  rw [lastStamped, h]

theorem lastStamped_of_asking (h : i.route? n = some q) (ha : i.asking? n = some a) :
    lastStamped n (i :: earlier) = some (a, q) := by
  rw [lastStamped, h, ha]

theorem lastStamped_of_version (h : i.route? n = some q) (ha : i.asking? n = none) :
    lastStamped n (i :: earlier) = lastStamped n earlier := by
  rw [lastStamped, h, ha]

end

/-- What a source of routes remembers, beside all that it issued. -/
structure Ledger where
  revisions : Revisions
  issues : List Issue

namespace Ledger
variable {l : Ledger} {url : String} {es : List Json}

def empty : Ledger := ⟨[], []⟩

/-- Takes down what a call brings. -/
def call (url : String) (l : Ledger) (p : Poll) : Ledger :=
  match entries url p.exchange, RouteService.routes url p.clock p.exchange l.revisions with
  | .ok es, (.ok fetched, rs) => ⟨rs, ⟨es, fetched⟩ :: l.issues⟩
  | _, (_, rs) => ⟨rs, l.issues⟩

def after (url : String) (ps : List Poll) : Ledger := ps.foldl (call url) empty

/-- Takes down a list. -/
def take (clock : Nat → Int) (es : List Json) (l : Ledger) : Ledger :=
  ⟨(readList clock es l.revisions).2, ⟨es, (readList clock es l.revisions).1⟩ :: l.issues⟩

theorem after_concat (url : String) (ps : List Poll) (p : Poll) :
    after url (ps ++ [p]) = (after url ps).call url p := by
  rw [after, List.foldl_concat, ← after]

/-- Of each name the digest and the stamp are remembered that it was last stamped with, and no route
shares its name with another one of its list. -/
structure Balanced (l : Ledger) : Prop where
  recalls : ∀ n, Assoc.get? n l.revisions =
    (lastStamped n l.issues).map fun p => ⟨p.1.digest, p.2.updatedAt⟩
  names : ∀ i ∈ l.issues, (i.routes.map Route.name).Nodup

namespace Balanced

theorem empty : Ledger.empty.Balanced where
  recalls _ := rfl
  names _ hi := nomatch hi

theorem take (h : l.Balanced) (hes : Distinct es) (clock : Nat → Int) :
    (l.take clock es).Balanced := by
  refine ⟨fun n => ?_, List.forall_mem_cons.mpr ⟨nodup_names_readList _ _ _, h.names⟩⟩
  rw [Ledger.take, get?_readList]
  generalize hi : Issue.mk es (readList clock es l.revisions).1 = i
  have hentries : i.entries = es := hi ▸ rfl
  have hroutes : i.routes = (readList clock es l.revisions).1 := hi ▸ rfl
  rw [← hroutes]
  cases hroute : i.route? n with
  | none =>
    rw [if_neg (Issue.route?_eq_none_iff.mp hroute), lastStamped_of_absent hroute, Option.map_none]
  | some q =>
    obtain ⟨hq, rfl⟩ := Issue.mem_of_route? hroute
    rw [if_pos (List.mem_map_of_mem hq)]
    cases hask : i.asking? q.name with
    | none =>
      rw [lastStamped_of_version hroute hask, ← h.recalls]
      rw [Issue.asking?_eq_none_iff, hentries] at hask
      exact get?_pass_of_absent hask _ _ _
    | some a =>
      rw [lastStamped_of_asking hroute hask]
      obtain ⟨ha, haname⟩ := Issue.mem_of_asking? hask
      rw [hentries] at ha
      rw [hroutes, hes.readList_fst] at hq
      obtain ⟨p, hp, hpq⟩ := List.mem_filterMap.mp hq
      have hpmem : p.2 ∈ es := map_snd_splits es ▸ List.mem_map_of_mem hp
      -- The route can only come from the entry that asks for its name.
      obtain rfl : p.2 = a :=
        hes.eq_of_name? hpmem ha (name?_of_routeOf hpq) (name?_of_stampName? haname)
      have hstamp := (stampName?_of_routeOf (isVersioned_of_stampName? haname) hpq).2
      rw [(hes.revisionAfter_eq hp haname clock l.revisions).2, Option.map_some, hstamp,
        ← digest_revisionAfter clock l.revisions p.1 p.2]

end Balanced
end Ledger

/-- How the stamp of a route that an entry without a version makes follows from what was issued
before it. -/
structure Follows (now : Int) (issues : List Issue) (e : Json) (x : Route) : Prop where
  /-- A name that was not stamped since there was no route of it gets the time. -/
  first : lastStamped x.name issues = none → x.updatedAt = now
  /-- The body that was stamped last keeps its stamp. -/
  unchanged : ∀ a q, lastStamped x.name issues = some (a, q) → a.canonical = e.canonical →
    x.updatedAt = q.updatedAt
  /-- Any other body gets a newer one. -/
  edited : ∀ a q, lastStamped x.name issues = some (a, q) → a.canonical ≠ e.canonical →
    x.updatedAt = max now (q.updatedAt + 1)
  /-- A route is newer than the one before if the body was edited and had no version before. -/
  rises : ∀ last earlier, issues = last :: earlier → ∀ a ∈ last.entries,
    stampName? a = some x.name → a.canonical ≠ e.canonical →
      ∀ q ∈ last.routes, q.name = x.name → q.updatedAt < x.updatedAt
  /-- If it had one, that is not remembered: the route is newer only if the time is past the version
  and another body was stamped last, or the last stamp makes it so. -/
  rises_iff : ∀ last earlier, issues = last :: earlier →
    (∀ a ∈ last.entries, stampName? a ≠ some x.name) →
      ∀ q ∈ last.routes, q.name = x.name → (q.updatedAt < x.updatedAt ↔
        (q.updatedAt < now ∧
          ∀ a s, lastStamped x.name earlier = some (a, s) → a.canonical ≠ e.canonical) ∨
        ∃ a s, lastStamped x.name earlier = some (a, s) ∧ (q.updatedAt < s.updatedAt ∨
          q.updatedAt = s.updatedAt ∧ a.canonical ≠ e.canonical))

namespace Follows
variable {now : Int} {issues : List Issue} {e : Json} {x : Route}

end Follows

end Gateway
