import Gateway.Change
import Gateway.Proofs.Specificity
import Gateway.Proofs.TrieContents
import Mathlib.Logic.Function.Basic

/-! # What a snapshot holds: its scopes and its index list the routes of one map by name -/
namespace Gateway

/-- The routes of a table by name, without any index. -/
abbrev Contents := String → Option Route

namespace Contents

def empty : Contents := fun _ => none

/-- Gives a name its route, whatever it had before. -/
def put (m : Contents) (r : Route) : Contents := Function.update m r.name (some r)

def Has (m : Contents) (r : Route) : Prop := m r.name = some r

theorem Has.eq {m : Contents} {a b : Route} (ha : m.Has a) (hb : m.Has b) (h : a.name = b.name) :
    a = b := by
  rw [Has, h] at ha
  exact Option.some.inj (ha.symm.trans hb)

theorem has_put_iff (m : Contents) (r a : Route) :
    (m.put r).Has a ↔ (m.Has a ∧ a.name ≠ r.name) ∨ a = r := by
  rw [Has, put, Function.update_apply]
  split_ifs with h
  · constructor
    · intro he
      exact Or.inr (Option.some.inj he).symm
    · rintro (⟨_, hne⟩ | rfl)
      · exact absurd h hne
      · rfl
  · constructor
    · intro he
      exact Or.inl ⟨he, h⟩
    · rintro (⟨he, _⟩ | rfl)
      · exact he
      · exact absurd rfl h

end Contents

/-- Where a route stands in its scope: at the segments of its prefix, if it has one. -/
def Route.place (r : Route) : Option (List String) := r.pathPrefix.map segments

namespace Scope

/-- The routes that stand at a place. -/
def groupAt (place : Option (List String)) (s : Scope) : List Route :=
  match place with
  | some ss => (s.trie.getAt ss).getD []
  | none => s.unprefixed

@[simp] theorem groupAt_empty (place : Option (List String)) : empty.groupAt place = [] := by
  cases place with
  | none => rfl
  | some ss => simp [groupAt, empty]

theorem groupAt_withRoute (place : Option (List String)) (r : Route) (s : Scope) :
    (s.withRoute r).groupAt place =
      if place = r.place then bySpecificity (s.groupAt place ++ [r]) else s.groupAt place := by
  unfold withRoute Route.place
  cases r.pathPrefix with
  | none => cases place <;> simp [groupAt]
  | some q =>
    cases place with
    | none => simp [groupAt]
    | some ss =>
      by_cases hs : ss = segments q <;> simp [groupAt, Trie.update, Trie.getAt_updateAt, hs]

theorem groupAt_without (place : Option (List String)) (r : Route) (s : Scope) :
    (s.without r).groupAt place =
      if place = r.place then (s.groupAt place).filter (·.name != r.name) else s.groupAt place := by
  unfold without Route.place
  cases r.pathPrefix with
  | none => cases place <;> simp [groupAt]
  | some q =>
    cases place with
    | none => simp [groupAt]
    | some ss =>
      by_cases hs : ss = segments q
      · subst hs
        simp only [groupAt, Trie.update, Trie.getAt_updateAt, Option.map_some, if_true]
        split_ifs with he
        · exact (List.isEmpty_iff.mp he).symm
        · rfl
      · simp [groupAt, Trie.update, Trie.getAt_updateAt, hs]

/-- A path leads to the routes at its beginnings, the longest first, and to those without prefix. -/
theorem candidates_eq (path : String) (s : Scope) :
    s.candidates path =
      ((segments path).inits.reverse.flatMap fun ss => s.groupAt (some ss)) ++ s.groupAt none := by
  have h : ∀ sss : List (List String), (sss.filterMap (s.trie.getAt ·)).flatten =
      sss.flatMap fun ss => s.groupAt (some ss) := by
    intro sss
    induction sss with
    | nil => rfl
    | cons ss sss ih => cases hs : s.trie.getAt ss <;> simp [groupAt, hs, ih]
  rw [candidates, Trie.covering_eq, h]
  rfl

@[simp] theorem candidates_empty (path : String) : empty.candidates path = [] := by
  rw [candidates_eq]
  simp

end Scope

namespace Index

/-- The routes of one host, or those bound to none. -/
def groupAt (host : Option String) (x : Index) : List Route :=
  match host with
  | some h => (Assoc.get? h x.byHost).getD []
  | none => x.anyHost

theorem ofHost_eq (host : Option String) (x : Index) :
    x.ofHost host = (host.map fun h => x.groupAt (some h)).getD [] := by
  cases host <;> rfl

theorem nodup_push {x : Index} (hx : (Assoc.keys x.byHost).Nodup) (r : Route) :
    (Assoc.keys (x.push r).byHost).Nodup := by
  unfold push
  cases r.host with
  | none => exact hx
  | some h => exact Assoc.nodup_keys_set hx _ _

theorem nodup_withRoute {x : Index} (hx : (Assoc.keys x.byHost).Nodup) (r : Route) :
    (Assoc.keys (x.withRoute r).byHost).Nodup := by
  rw [withRoute, sort, Assoc.keys_map]
  refine nodup_push ?_ r
  exact Assoc.nodup_keys_filter (by rwa [Assoc.keys_map]) _

theorem groupAt_without {x : Index} (hx : (Assoc.keys x.byHost).Nodup) (name : String)
    (host : Option String) :
    (x.without name).groupAt host = (x.groupAt host).filter (·.name != name) := by
  cases host with
  | none => rfl
  | some h =>
    have hk : (Assoc.keys (x.byHost.map fun p => (p.1, p.2.filter (·.name != name)))).Nodup := by
      rwa [Assoc.keys_map]
    change (Assoc.get? h ((x.byHost.map fun p => (p.1, p.2.filter (·.name != name))).filter
      fun p => !p.2.isEmpty)).getD [] = _
    rw [Assoc.get?_filter hk (fun rs => !rs.isEmpty), Assoc.get?_map]
    cases hg : Assoc.get? h x.byHost with
    | none => simp [groupAt, hg]
    | some rs =>
      by_cases he : rs.filter (·.name != name) = []
      · simp [groupAt, hg, he, Option.filter]
      · simp [groupAt, hg, he, Option.filter]

theorem groupAt_push (r : Route) (host : Option String) (x : Index) :
    (x.push r).groupAt host = if host = r.host then x.groupAt host ++ [r] else x.groupAt host := by
  unfold push
  cases r.host with
  | none => cases host <;> simp [groupAt]
  | some h =>
    cases host with
    | none => simp [groupAt]
    | some k => by_cases hk : k = h <;> simp [groupAt, Assoc.get?_set, hk]

theorem groupAt_sort (host : Option String) (x : Index) :
    x.sort.groupAt host = bySpecificity (x.groupAt host) := by
  cases host with
  | none => rfl
  | some h =>
    change (Assoc.get? h (x.byHost.map fun p => (p.1, bySpecificity p.2))).getD [] = _
    rw [Assoc.get?_map]
    cases hg : Assoc.get? h x.byHost <;> simp [groupAt, hg, bySpecificity]

theorem groupAt_withRoute {x : Index} (hx : (Assoc.keys x.byHost).Nodup) (r : Route)
    (host : Option String) :
    (x.withRoute r).groupAt host =
      bySpecificity (if host = r.host then (x.groupAt host).filter (·.name != r.name) ++ [r]
        else (x.groupAt host).filter (·.name != r.name)) := by
  rw [withRoute, groupAt_sort, groupAt_push, groupAt_without hx]

end Index

namespace Snapshot

/-- The scope of one host, or the one of the routes bound to none. -/
def scopeAt (host : Option String) (s : Snapshot) : Scope :=
  match host with
  | some h => (Assoc.get? h s.hosts).getD .empty
  | none => s.anyHost

/-- The routes of a host that stand at a place. -/
def groupAt (host : Option String) (place : Option (List String)) (s : Snapshot) : List Route :=
  (s.scopeAt host).groupAt place

theorem scopeAt_withScoped (r : Route) (host : Option String) (s : Snapshot) :
    (s.withScoped r).scopeAt host =
      if host = r.host then (s.scopeAt host).withRoute r else s.scopeAt host := by
  unfold withScoped
  cases r.host with
  | none => cases host <;> simp [scopeAt]
  | some h =>
    cases host with
    | none => simp [scopeAt]
    | some k => by_cases hk : k = h <;> simp [scopeAt, Assoc.get?_set, hk]

theorem groupAt_withScoped (r : Route) (host : Option String) (place : Option (List String))
    (s : Snapshot) :
    (s.withScoped r).groupAt host place =
      if host = r.host ∧ place = r.place then bySpecificity (s.groupAt host place ++ [r])
      else s.groupAt host place := by
  rw [groupAt, scopeAt_withScoped]
  by_cases hh : host = r.host
  · rw [if_pos hh, Scope.groupAt_withRoute]
    by_cases hp : place = r.place <;> simp [groupAt, hh, hp]
  · rw [if_neg hh, if_neg fun h => hh h.1, groupAt]

theorem scopeAt_withoutScoped_of_ne {r : Route} {host : Option String} (s : Snapshot)
    (hne : host ≠ r.host) : (s.withoutScoped r).scopeAt host = s.scopeAt host := by
  unfold withoutScoped
  cases hr : r.host with
  | none =>
    cases host with
    | none => exact absurd hr.symm hne
    | some k => rfl
  | some h =>
    cases hg : Assoc.get? h s.hosts with
    | none => simp [hg]
    | some scope =>
      cases host with
      | none => simp [hg, scopeAt]
      | some k =>
        have hk : k ≠ h := fun he => hne (by rw [he, hr])
        simp [hg, scopeAt, Assoc.get?_set, hk]

/-- A scope that is missing holds as much as an empty one, also when a route is taken out of it. -/
theorem groupAt_withoutScoped_self (r : Route) (place : Option (List String)) (s : Snapshot) :
    (s.withoutScoped r).groupAt r.host place =
      ((s.scopeAt r.host).without r).groupAt place := by
  unfold withoutScoped
  cases hr : r.host with
  | none => rfl
  | some h =>
    cases hg : Assoc.get? h s.hosts with
    | none => simp [groupAt, scopeAt, hg, Scope.groupAt_without]
    | some scope => simp [groupAt, scopeAt, hg, Assoc.get?_set_self]

theorem groupAt_withoutScoped (r : Route) (host : Option String) (place : Option (List String))
    (s : Snapshot) :
    (s.withoutScoped r).groupAt host place =
      if host = r.host ∧ place = r.place then (s.groupAt host place).filter (·.name != r.name)
      else s.groupAt host place := by
  by_cases hh : host = r.host
  · subst hh
    rw [groupAt_withoutScoped_self, Scope.groupAt_without]
    by_cases hp : place = r.place <;> simp [groupAt, hp]
  · rw [groupAt, scopeAt_withoutScoped_of_ne s hh, if_neg fun h => hh h.1, groupAt]

end Snapshot
end Gateway
