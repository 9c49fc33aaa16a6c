import Gateway.Proofs.EntryStamps
import Gateway.Proofs.Removals

/-! # Mirroring a service: a table that follows lists without versions -/
namespace Gateway
open Text

namespace RouteService
variable {clock : Nat → Int} {es : List Json} {e : Json} {n : String} {rs : Revisions}

/-! ## One list -/

/-- The name in an entry. -/
def name? (e : Json) : Option String := (definition? e).map fun d => trim d.name

theorem filterMap_name? (es : List Json) :
    es.filterMap name? = (es.filterMap definition?).map fun d => trim d.name :=
  List.map_filterMap.symm

theorem name?_of_stampName? (h : stampName? e = some n) : name? e = some n := by
  obtain ⟨d, hd, hname⟩ := Option.bind_eq_some_iff.mp h
  split_ifs at hname
  rw [name?, hd, Option.map_some, hname]

theorem name?_of_routeOf {stamp : Int} {x : Route} (h : routeOf e stamp = some x) :
    name? e = some x.name := by
  obtain ⟨d, hd, hvalid⟩ := Option.bind_eq_some_iff.mp h
  cases hmade : (if isVersioned e then d else d.stampedAt stamp).validate with
  | error fault =>
    rw [hmade] at hvalid
    cases hvalid
  | ok y =>
    rw [hmade] at hvalid
    cases hvalid
    rw [name?, hd, Option.map_some, (Definition.makes_of_validate hmade).name]
    split_ifs <;> rfl

/-- A list in which each name stands once. -/
def Distinct (es : List Json) : Prop := (es.filterMap name?).Nodup

namespace Distinct

theorem alone {before after : List Json} (h : Distinct (before ++ e :: after))
    (hname : name? e = some n) :
    (∀ a ∈ before, name? a ≠ some n) ∧ ∀ a ∈ after, name? a ≠ some n := by
  rw [Distinct, List.filterMap_append, List.filterMap_cons_some hname, List.nodup_append] at h
  obtain ⟨-, hafter, hbefore⟩ := h
  refine ⟨fun a ha haname => ?_, fun a ha haname => ?_⟩
  · exact hbefore n (List.mem_filterMap.mpr ⟨a, ha, haname⟩) n List.mem_cons_self rfl
  · exact (List.nodup_cons.mp hafter).1 (List.mem_filterMap.mpr ⟨a, ha, haname⟩)

theorem eq_of_name? (h : Distinct es) {a : Json} (ha : a ∈ es) (he : e ∈ es)
    (haname : name? a = some n) (hname : name? e = some n) : a = e := by
  obtain ⟨before, after, rfl⟩ := List.append_of_mem he
  obtain ⟨hbefore, hafter⟩ := h.alone hname
  rcases List.mem_append.mp ha with ha | ha
  · exact absurd haname (hbefore a ha)
  · rcases List.mem_cons.mp ha with rfl | ha
    · rfl
    · exact absurd haname (hafter a ha)

/-- The revision of an entry follows what was remembered of its name before the pass, and is what is
remembered after it. -/
theorem revisionAfter_eq (h : Distinct es) {p : List Json × Json} (hp : p ∈ splits es)
    (hname : stampName? p.2 = some n) (clock : Nat → Int) (rs : Revisions) :
    revisionAfter clock rs p.1 p.2 =
        .next (clock p.1.length) p.2.digest (Assoc.get? n rs) ∧
      Assoc.get? n (pass clock 0 es rs) = some (revisionAfter clock rs p.1 p.2) := by
  obtain ⟨after, rfl⟩ := exists_of_mem_splits hp
  obtain ⟨hbefore, hafter⟩ := h.alone (name?_of_stampName? hname)
  have hbefore' : ∀ a ∈ p.1, stampName? a ≠ some n :=
    fun a ha haname => hbefore a ha (name?_of_stampName? haname)
  have hafter' : ∀ a ∈ after, stampName? a ≠ some n :=
    fun a ha haname => hafter a ha (name?_of_stampName? haname)
  obtain ⟨rs', hrs', hpass⟩ := exists_pass_eq hname clock rs p.1 after
  refine ⟨?_, ?_⟩
  · rw [RouteService.revisionAfter_eq hname, get?_pass_of_absent hbefore']
  · rw [hpass, get?_pass_of_absent hafter', hrs']

end Distinct

/-- But for the stamps, the routes of a list's entries are those of its definitions. -/
theorem map_stampedAt_routeAfter (clock : Nat → Int) (es : List Json) (rs : Revisions) :
    ((splits es).filterMap (routeAfter clock rs)).map (Route.stampedAt 0) =
      (Batch.converting (es.filterMap definition?)).map (Route.stampedAt 0) := by
  have hroutes : (fun p : List Json × Json => (routeAfter clock rs p).map (Route.stampedAt 0)) =
      (fun e => ((definition? e).bind fun d => d.validate.toOption).map (Route.stampedAt 0)) ∘
        Prod.snd :=
    funext fun p => map_stampedAt_routeOf p.2 0 _
  rw [List.map_filterMap, hroutes, ← List.filterMap_map, map_snd_splits, Batch.converting,
    List.filterMap_filterMap, List.map_filterMap]

/-- Each valid definition of a list in which each name stands once makes a route. -/
theorem Distinct.readList_fst (h : Distinct es) (clock : Nat → Int) (rs : Revisions) :
    (readList clock es rs).1 = (splits es).filterMap (routeAfter clock rs) := by
  rw [RouteService.readList_fst]
  refine Batch.gather_eq_self ?_
  rw [← Route.map_name_stampedAt 0, map_stampedAt_routeAfter, Route.map_name_stampedAt]
  rw [Distinct, filterMap_name?] at h
  exact h.sublist (Batch.names_converting_sublist _)

/-- A list none of whose definitions has a version or shares its name. -/
structure Plain (es : List Json) : Prop where
  unversioned : ∀ e ∈ es, ∀ d, definition? e = some d → isVersioned e = false
  distinct : ((es.filterMap definition?).map fun d => trim d.name).Nodup

namespace Plain

theorem toDistinct (h : Plain es) : Distinct es := by
  rw [Distinct, filterMap_name?]
  exact h.distinct

theorem isVersioned_eq_false (h : Plain es) (he : e ∈ es) {stamp : Int} {r : Route}
    (hr : routeOf e stamp = some r) : isVersioned e = false := by
  obtain ⟨d, hd, -⟩ := Option.bind_eq_some_iff.mp hr
  exact h.unversioned e he d hd

/-- The routes of the list are made by its entries at the stamps that are remembered of them. -/
theorem mem_readList_iff (h : Plain es) {r : Route} :
    r ∈ (readList clock es rs).1 ↔ ∃ e ∈ es, ∃ v, stampName? e = some r.name ∧
      Assoc.get? r.name (pass clock 0 es rs) = some v ∧ routeOf e v.stamp = some r := by
  rw [h.toDistinct.readList_fst]
  constructor
  · intro hr
    obtain ⟨p, hp, hpr⟩ := List.mem_filterMap.mp hr
    have he : p.2 ∈ es := map_snd_splits es ▸ List.mem_map_of_mem hp
    have hname := (stampName?_of_routeOf (h.isVersioned_eq_false he hpr) hpr).1
    exact ⟨p.2, he, _, hname, (h.toDistinct.revisionAfter_eq hp hname clock rs).2, hpr⟩
  · rintro ⟨e, he, v, hname, hv, hr⟩
    rw [← map_snd_splits es] at he
    obtain ⟨p, hp, rfl⟩ := List.mem_map.mp he
    rw [(h.toDistinct.revisionAfter_eq hp hname clock rs).2] at hv
    cases hv
    exact List.mem_filterMap.mpr ⟨p, hp, hr⟩

theorem exists_next (h : Plain es) (he : e ∈ es) (hname : stampName? e = some n)
    (clock : Nat → Int) (rs : Revisions) : ∃ now, Assoc.get? n (pass clock 0 es rs) =
      some (.next now e.digest (Assoc.get? n rs)) := by
  rw [← map_snd_splits es] at he
  obtain ⟨p, hp, rfl⟩ := List.mem_map.mp he
  obtain ⟨hnext, hpass⟩ := h.toDistinct.revisionAfter_eq hp hname clock rs
  exact ⟨_, hpass.trans (congrArg some hnext)⟩

/-- An entry that is valid at any time has a route. -/
theorem mem_names_readList (h : Plain es) (he : e ∈ es) {stamp : Int} {x : Route}
    (hx : routeOf e stamp = some x) : x.name ∈ (readList clock es rs).1.map Route.name := by
  have hversion := h.isVersioned_eq_false he hx
  have hname := (stampName?_of_routeOf hversion hx).1
  obtain ⟨v, hv⟩ : ∃ v, Assoc.get? x.name (pass clock 0 es rs) = some v := by
    obtain ⟨now, hnext⟩ := h.exists_next he hname clock rs
    exact ⟨_, hnext⟩
  have hroute := routeOf_of_unversioned hversion v.stamp stamp
  rw [hx, Option.map_some] at hroute
  have hmem : x.stampedAt v.stamp ∈ (readList clock es rs).1 :=
    h.mem_readList_iff.mpr ⟨e, he, v, hname, hv, hroute⟩
  exact List.mem_map.mpr ⟨_, hmem, Route.name_stampedAt v.stamp x⟩

end Plain

/-- What a body means does not depend on how it is written. -/
theorem routeOf_congr {a e : Json} (h : a.canonical = e.canonical) (ha : isVersioned a = false)
    (he : isVersioned e = false) (stamp : Int) : routeOf a stamp = routeOf e stamp := by
  rw [routeOf, routeOf, ha, he, definition?, definition?, h]

end RouteService

/-- One call of a service. -/
structure Poll where
  clock : Nat → Int
  exchange : Exchange

/-- A table that follows a service, beside what the source of its routes remembers. -/
structure Mirror where
  revisions : Revisions
  table : Snapshot

namespace Mirror
open RouteService
variable {url : String} {clock : Nat → Int} {m : Mirror} {last es : List Json} {n : String}

def empty : Mirror := ⟨[], .empty⟩

/-- Takes in what a call brings. -/
def poll (url : String) (m : Mirror) (p : Poll) : Mirror :=
  match RouteService.routes url p.clock p.exchange m.revisions with
  | (.ok fetched, rs) => ⟨rs, m.table.reconcile fetched⟩
  | (.error _, rs) => ⟨rs, m.table⟩

def after (url : String) (ps : List Poll) : Mirror := ps.foldl (poll url) empty

/-- Takes in a list. -/
def take (clock : Nat → Int) (es : List Json) (m : Mirror) : Mirror :=
  ⟨(readList clock es m.revisions).2, m.table.reconcile (readList clock es m.revisions).1⟩

/-- A mirror of a list: of each valid entry it remembers the digest and the stamp that the entry's
route in the table has, and it has nothing else. -/
structure Reflects (m : Mirror) (es : List Json) : Prop where
  holds : ∃ c, m.table.Holds c
  known : ∀ n v, Assoc.get? n m.revisions = some v → ∃ e ∈ es, stampName? e = some n ∧
    e.digest = v.digest ∧ ∃ r, routeOf e v.stamp = some r ∧ m.table.get? n = some r
  unknown : ∀ n, Assoc.get? n m.revisions = none → m.table.get? n = none ∧
    ∀ e ∈ es, stampName? e = some n → ∀ stamp, routeOf e stamp = none

/-- Bodies of one digest in the two lists mean the same. -/
def ToldApart (es es' : List Json) : Prop :=
  ∀ a ∈ es, ∀ e ∈ es', a.digest = e.digest → a.canonical = e.canonical

namespace Reflects

/-- What a list brings is new to the table, unless the table has it as it is. -/
theorem isNews_or_held (hm : m.Reflects last) (hes : Plain es) (htold : ToldApart last es)
    {r : Route} (hr : r ∈ (readList clock es m.revisions).1) :
    m.table.IsNews r ∨ m.table.get? r.name = some r := by
  obtain ⟨e, he, v, hname, hv, hroute⟩ := hes.mem_readList_iff.mp hr
  obtain ⟨now, hnext⟩ := hes.exists_next he hname clock m.revisions
  rw [hv] at hnext
  cases hlast : Assoc.get? r.name m.revisions with
  | none =>
    left
    intro old hold
    rw [(hm.unknown _ hlast).1] at hold
    cases hold
  | some u =>
    obtain ⟨a, ha, haname, hdigest, held, hheld, htable⟩ := hm.known _ u hlast
    rw [hlast] at hnext
    cases hnext
    have haversion := isVersioned_of_stampName? haname
    have hversion := isVersioned_of_stampName? hname
    by_cases hsame : u.digest = e.digest
    · right
      rw [Revision.next_of_same hsame] at hroute
      rw [htable, ← hheld, ← hroute]
      exact routeOf_congr (htold a ha e he (hdigest.trans hsame)) haversion hversion _
    · left
      intro old hold
      rw [htable] at hold
      cases hold
      rw [(stampName?_of_routeOf haversion hheld).2, (stampName?_of_routeOf hversion hroute).2]
      exact Revision.stamp_lt_next hsame

theorem mem_routes_take_iff (hm : m.Reflects last) (hes : Plain es) (htold : ToldApart last es)
    (r : Route) : r ∈ (m.take clock es).table.routes ↔ r ∈ (readList clock es m.revisions).1 := by
  obtain ⟨c, hc⟩ := hm.holds
  exact hc.mem_routes_reconcile_iff (nodup_names_readList clock es m.revisions)
    (fun r hr => hm.isNews_or_held hes htold hr) r

theorem get?_take_iff (hm : m.Reflects last) (hes : Plain es) (htold : ToldApart last es)
    (r : Route) : (m.take clock es).table.get? n = some r ↔
      r ∈ (readList clock es m.revisions).1 ∧ r.name = n := by
  obtain ⟨c, hc⟩ := hm.holds
  obtain ⟨c', hc'⟩ := hc.exists_holds_reconcile (readList clock es m.revisions).1
  rw [← hm.mem_routes_take_iff hes htold]
  exact hc'.get?_eq_some_iff

/-- A name that no route of the list has is forgotten. -/
theorem unknown_take (hm : m.Reflects last) (hes : Plain es) (htold : ToldApart last es)
    (hn : n ∉ (readList clock es m.revisions).1.map Route.name) :
    Assoc.get? n (m.take clock es).revisions = none ∧ (m.take clock es).table.get? n = none := by
  refine ⟨by rw [take, get?_readList, if_neg hn], ?_⟩
  refine Option.eq_none_iff_forall_ne_some.mpr fun r hr => ?_
  obtain ⟨hmem, rfl⟩ := (hm.get?_take_iff hes htold r).mp hr
  exact hn (List.mem_map_of_mem hmem)

/-- A mirror of one list that takes in the next is a mirror of that. -/
theorem take (hm : m.Reflects last) (hes : Plain es) (htold : ToldApart last es) :
    (m.take clock es).Reflects es := by
  obtain ⟨c, hc⟩ := hm.holds
  have hpass : ∀ n, n ∈ (readList clock es m.revisions).1.map Route.name →
      Assoc.get? n (m.take clock es).revisions = Assoc.get? n (pass clock 0 es m.revisions) :=
    fun n hn => by rw [Mirror.take, get?_readList, if_pos hn]
  refine ⟨hc.exists_holds_reconcile _, fun n v hv => ?_, fun n hn => ?_⟩
  · have hmem : n ∈ (readList clock es m.revisions).1.map Route.name := by
      by_contra hnot
      rw [(hm.unknown_take hes htold hnot).1] at hv
      cases hv
    rw [hpass n hmem] at hv
    obtain ⟨r, hr, rfl⟩ := List.mem_map.mp hmem
    obtain ⟨e, he, u, hname, hu, hroute⟩ := hes.mem_readList_iff.mp hr
    obtain ⟨now, hnext⟩ := hes.exists_next he hname clock m.revisions
    rw [hv] at hu hnext
    cases hu
    cases hnext
    exact ⟨e, he, hname, (Revision.digest_next ..).symm, r, hroute,
      (hm.get?_take_iff hes htold r).mpr ⟨hr, rfl⟩⟩
  · have hnot : n ∉ (readList clock es m.revisions).1.map Route.name := by
      intro hmem
      obtain ⟨r, hr, rfl⟩ := List.mem_map.mp hmem
      obtain ⟨e, he, u, hname, hu, -⟩ := hes.mem_readList_iff.mp hr
      rw [hpass _ hmem, hu] at hn
      cases hn
    refine ⟨(hm.unknown_take hes htold hnot).2, fun e he hname stamp => ?_⟩
    by_contra hvalid
    obtain ⟨x, hx⟩ := Option.ne_none_iff_exists'.mp hvalid
    have hxname := (stampName?_of_routeOf (isVersioned_of_stampName? hname) hx).1
    obtain rfl := Option.some.inj (hname.symm.trans hxname)
    exact hnot (hes.mem_names_readList he hx)

/-- A body that is served unchanged is remembered as it was, and its route stays in the table. -/
theorem keeps (hm : m.Reflects last) (hlast : Plain last) (hes : Plain es)
    (htold : ToldApart last es) {a e : Json} (ha : a ∈ last) (he : e ∈ es)
    (haname : stampName? a = some n) (hname : stampName? e = some n)
    (hsame : a.canonical = e.canonical) :
    Assoc.get? n (m.take clock es).revisions = Assoc.get? n m.revisions ∧
      (m.take clock es).table.get? n = m.table.get? n := by
  have hroute := routeOf_congr hsame (isVersioned_of_stampName? haname)
    (isVersioned_of_stampName? hname)
  cases hrevision : Assoc.get? n m.revisions with
  | none =>
    obtain ⟨htable, hinvalid⟩ := hm.unknown n hrevision
    rw [htable]
    refine hm.unknown_take hes htold fun hmem => ?_
    obtain ⟨r, hr, rfl⟩ := List.mem_map.mp hmem
    obtain ⟨e', he', v, hname', -, hr'⟩ := hes.mem_readList_iff.mp hr
    obtain rfl := hes.toDistinct.eq_of_name? he' he (name?_of_stampName? hname')
      (name?_of_stampName? hname)
    rw [← hroute, hinvalid a ha haname] at hr'
    cases hr'
  | some v =>
    obtain ⟨a', ha', haname', hdigest, r, hr, htable⟩ := hm.known n v hrevision
    obtain rfl := hlast.toDistinct.eq_of_name? ha' ha (name?_of_stampName? haname')
      (name?_of_stampName? haname)
    have hdigest' : v.digest = e.digest := by
      rw [← hdigest, Json.digest, Json.digest, hsame]
    obtain ⟨now, hnext⟩ := hes.exists_next he hname clock m.revisions
    rw [hrevision, Revision.next_of_same hdigest'] at hnext
    obtain rfl := Option.some.inj
      (haname.symm.trans (stampName?_of_routeOf (isVersioned_of_stampName? haname) hr).1)
    rw [hroute] at hr
    have hmem : r ∈ (readList clock es m.revisions).1 :=
      hes.mem_readList_iff.mpr ⟨e, he, v, hname, hnext, hr⟩
    constructor
    · rw [Mirror.take, get?_readList, if_pos (List.mem_map_of_mem hmem), hnext]
    · rw [htable]
      exact (hm.get?_take_iff hes htold r).mpr ⟨hmem, rfl⟩

end Reflects

/-! ## Many calls -/

theorem after_concat (url : String) (ps : List Poll) (p : Poll) :
    after url (ps ++ [p]) = (after url ps).poll url p := by
  rw [after, List.foldl_concat, ← after]

namespace Unversioned

end Unversioned

/-- An answer with a list. -/
def answer (es : List Json) : Exchange := .answered 200 (utf8 (Json.list es).render)

end Mirror
end Gateway
