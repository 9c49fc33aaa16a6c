import Gateway.Proofs.Batches
import Gateway.Proofs.FiniteMaps
import Gateway.Proofs.Validated
import Gateway.Repository.Service
import Mathlib

/-! # Stamps of entries: what a pass over a list makes of each, and what it remembers -/
namespace Gateway
open Text

namespace Revision
variable {now : Int} {digest : String} {r : Revision}

/-- The revision of what is served now, after the last one if there is one. -/
def next (now : Int) (digest : String) : Option Revision → Revision
  | none => ⟨digest, now⟩
  | some r => if r.digest = digest then r else ⟨digest, max now (r.stamp + 1)⟩

@[simp] theorem digest_next (now : Int) (digest : String) (last : Option Revision) :
    (next now digest last).digest = digest := by
  cases last with
  | none => rfl
  | some r =>
    rw [next]
    split_ifs with h
    · exact h
    · rfl

theorem next_of_same (h : r.digest = digest) : next now digest (some r) = r := if_pos h

theorem stamp_lt_next (h : r.digest ≠ digest) : r.stamp < (next now digest (some r)).stamp := by
  rw [next, if_neg h]
  exact Int.lt_of_lt_of_le (Int.lt_succ r.stamp) (le_max_right now (r.stamp + 1))

/-- How a name's revisions may follow one another. -/
def Precedes (r q : Revision) : Prop := r = q ∨ r.stamp < q.stamp

namespace Precedes
variable {p q : Revision}

theorem stamp_le (h : r.Precedes q) : r.stamp ≤ q.stamp := by
  rcases h with rfl | h
  · exact le_rfl
  · exact h.le

theorem trans (h : p.Precedes r) (h' : r.Precedes q) : p.Precedes q := by
  rcases h with rfl | h
  · exact h'
  · exact Or.inr (h.trans_le h'.stamp_le)

end Precedes
end Revision

namespace Revisions

theorem stamp_fst (now : Int) (name digest : String) (rs : Revisions) :
    (rs.stamp now name digest).1 = (Revision.next now digest (Assoc.get? name rs)).stamp := by
  rw [stamp, Revision.next.eq_def]
  cases Assoc.get? name rs with
  | none => rfl
  | some r => dsimp only; split_ifs <;> rfl

theorem get?_stamp (now : Int) (n name digest : String) (rs : Revisions) :
    Assoc.get? n (rs.stamp now name digest).2 =
      if n = name then some (Revision.next now digest (Assoc.get? name rs))
      else Assoc.get? n rs := by
  rw [stamp]
  cases hlast : Assoc.get? name rs with
  | none =>
    dsimp only
    rw [Assoc.get?_set]
    rfl
  | some r =>
    dsimp only [Revision.next]
    split_ifs with hdigest hn hn
    · rw [hn, hlast]
    · rfl
    · rw [hn, Assoc.get?_set, if_pos rfl]
    · rw [Assoc.get?_set, if_neg hn]

theorem get?_retain (n : String) (names : List String) (rs : Revisions) :
    Assoc.get? n (rs.retain names) = if n ∈ names then Assoc.get? n rs else none := by
  induction rs with
  | nil => simp [retain]
  | cons p rs ih =>
    rw [retain] at ih ⊢
    rw [List.filter_cons, Assoc.get?_cons]
    by_cases hp : p.1 ∈ names
    · rw [if_pos (by simpa using hp), Assoc.get?_cons, ih]
      by_cases hn : p.1 = n
      · rw [if_pos hn, if_pos hn, if_pos (hn ▸ hp)]
      · rw [if_neg hn, if_neg hn]
    · rw [if_neg (by simpa using hp), ih]
      by_cases hn : n ∈ names
      · have hne : p.1 ≠ n := by
          rintro rfl
          exact hp hn
        rw [if_pos hn, if_pos hn, if_neg hne]
      · rw [if_neg hn, if_neg hn]

end Revisions

namespace Batch

theorem converting_toList (d : Option Definition) :
    converting d.toList = (d.bind fun d => d.validate.toOption).toList := by
  cases d with
  | none => rfl
  | some d =>
    rw [Option.toList_some, converting, List.filterMap_cons, Option.bind_some]
    cases d.validate.toOption <;> rfl

theorem names_converting_sublist (ds : List Definition) :
    ((converting ds).map Route.name).Sublist (ds.map fun d => trim d.name) := by
  induction ds with
  | nil => exact List.Sublist.slnil
  | cons d ds ih =>
    rw [converting, List.filterMap_cons, ← converting]
    cases hd : d.validate with
    | error fault => exact ih.cons _
    | ok r =>
      have hname : r.name = trim d.name := (Definition.makes_of_validate hd).name
      rw [Except.toOption, List.map_cons, List.map_cons, hname]
      exact ih.cons_cons _

end Batch

namespace RouteService
variable {clock : Nat → Int} {e : Json} {n : String} {r : Revision}

/-! ## One entry -/

/-- The definition in an entry. -/
def definition? (e : Json) : Option Definition := Definition.decode? e.canonical

/-- The name that an entry asks a stamp for: none if it cannot be decoded or has a version. -/
def stampName? (e : Json) : Option String :=
  (definition? e).bind fun d => if isVersioned e then none else some (trim d.name)

/-- The revision that a stamp comes from. -/
def renewed (now : Int) (e : Json) (rs : Revisions) : Revision :=
  .next now e.digest ((stampName? e).bind fun n => Assoc.get? n rs)

/-- The route that an entry makes, of its own version if it has one. -/
def routeOf (e : Json) (stamp : Int) : Option Route :=
  (definition? e).bind fun d =>
    (if isVersioned e then d else d.stampedAt stamp).validate.toOption

theorem get?_readEntry (now : Int) (e : Json) (rs : Revisions) (n : String) :
    Assoc.get? n (readEntry now e rs).2 =
      if stampName? e = some n then some (renewed now e rs) else Assoc.get? n rs := by
  rw [readEntry, renewed, stampName?, ← definition?]
  cases definition? e with
  | none => rfl
  | some d =>
    by_cases hversion : isVersioned e = true
    · simp [hversion]
    · simp [hversion, Revisions.get?_stamp, eq_comm]

theorem converting_readEntry (now : Int) (e : Json) (rs : Revisions) :
    Batch.converting (readEntry now e rs).1.toList =
      (routeOf e (renewed now e rs).stamp).toList := by
  have hread : (readEntry now e rs).1 = (definition? e).map fun d =>
      if isVersioned e then d else d.stampedAt (renewed now e rs).stamp := by
    rw [readEntry, renewed, stampName?, ← definition?]
    cases definition? e with
    | none => rfl
    | some d =>
      by_cases hversion : isVersioned e = true
      · simp [hversion]
      · simp [hversion, Revisions.stamp_fst, Definition.stampedAt]
  rw [hread, Batch.converting_toList, routeOf, Option.bind_map, Function.comp_def]

@[simp] theorem digest_renewed (now : Int) (e : Json) (rs : Revisions) :
    (renewed now e rs).digest = e.digest := Revision.digest_next ..

theorem renewed_eq (h : stampName? e = some n) (now : Int) (rs : Revisions) :
    renewed now e rs = .next now e.digest (Assoc.get? n rs) := by
  rw [renewed, h, Option.bind_some]

/-- Any other entry makes the same route at all times but for the stamp. -/
theorem routeOf_of_unversioned (h : isVersioned e = false) (stamp stamp' : Int) :
    routeOf e stamp = (routeOf e stamp').map (Route.stampedAt stamp) := by
  simp only [routeOf, h, Bool.false_eq_true, if_false]
  cases definition? e with
  | none => rfl
  | some d =>
    rw [Option.bind_some, Option.bind_some, Definition.validate_stampedAt,
      Definition.validate_stampedAt]
    cases d.validate <;> rfl

/-- But for the stamp, an entry makes the route that its definition makes. -/
theorem map_stampedAt_routeOf (e : Json) (stamp stamp' : Int) :
    (routeOf e stamp').map (Route.stampedAt stamp) =
      ((definition? e).bind fun d => d.validate.toOption).map (Route.stampedAt stamp) := by
  by_cases hversion : isVersioned e = true
  · simp only [routeOf, hversion, if_true]
  · rw [routeOf, Option.map_bind, Option.map_bind]
    refine Option.bind_congr fun d _ => ?_
    rw [Function.comp_apply, Function.comp_apply, if_neg hversion, Definition.validate_stampedAt]
    cases d.validate <;> rfl

/-- The route of an entry without a version has the name that the entry asks a stamp for, and the
stamp that it gets. -/
theorem stampName?_of_routeOf (h : isVersioned e = false) {stamp : Int} {x : Route}
    (hx : routeOf e stamp = some x) : stampName? e = some x.name ∧ x.updatedAt = stamp := by
  rw [routeOf] at hx
  obtain ⟨d, hd, hvalid⟩ := Option.bind_eq_some_iff.mp hx
  rw [h, if_neg Bool.false_ne_true] at hvalid
  cases hmade : (d.stampedAt stamp).validate with
  | error fault =>
    rw [hmade] at hvalid
    cases hvalid
  | ok y =>
    rw [hmade] at hvalid
    cases hvalid
    have hmakes := Definition.makes_of_validate hmade
    refine ⟨?_, hmakes.updatedAt⟩
    rw [stampName?, hd, Option.bind_some, h, if_neg Bool.false_ne_true, hmakes.name]
    rfl

theorem isVersioned_of_stampName? (h : stampName? e = some n) : isVersioned e = false := by
  obtain ⟨d, -, hd⟩ := Option.bind_eq_some_iff.mp h
  split_ifs at hd with hversion
  exact eq_false_of_ne_true hversion

/-! ## A pass over the entries -/

/-- The revisions after a pass over entries. -/
def pass (clock : Nat → Int) (i : Nat) (es : List Json) (rs : Revisions) : Revisions :=
  (readEntries clock i es rs).2

theorem pass_cons (clock : Nat → Int) (i : Nat) (e : Json) (es : List Json) (rs : Revisions) :
    pass clock i (e :: es) rs = pass clock (i + 1) es (readEntry (clock i) e rs).2 := rfl

theorem pass_append (clock : Nat → Int) (i : Nat) (es es' : List Json) (rs : Revisions) :
    pass clock i (es ++ es') rs = pass clock (i + es.length) es' (pass clock i es rs) := by
  induction es generalizing i rs with
  | nil => rfl
  | cons e es ih =>
    rw [List.cons_append, pass_cons, pass_cons, ih, List.length_cons]
    congr 1
    omega

theorem readEntries_append (clock : Nat → Int) (i : Nat) (es es' : List Json) (rs : Revisions) :
    (readEntries clock i (es ++ es') rs).1 = (readEntries clock i es rs).1 ++
      (readEntries clock (i + es.length) es' (pass clock i es rs)).1 := by
  induction es generalizing i rs with
  | nil => rfl
  | cons e es ih =>
    have hlength : i + (e :: es).length = i + 1 + es.length := by
      rw [List.length_cons]
      omega
    rw [hlength, pass_cons, List.cons_append]
    calc (readEntries clock i (e :: (es ++ es')) rs).1
        = (readEntry (clock i) e rs).1.toList ++
            (readEntries clock (i + 1) (es ++ es') (readEntry (clock i) e rs).2).1 := rfl
      _ = _ := by rw [ih, ← List.append_assoc]; rfl

/-- The revision of an entry that comes after others. -/
def revisionAfter (clock : Nat → Int) (rs : Revisions) (before : List Json) (e : Json) : Revision :=
  renewed (clock before.length) e (pass clock 0 before rs)

@[simp] theorem digest_revisionAfter (clock : Nat → Int) (rs : Revisions) (before : List Json)
    (e : Json) : (revisionAfter clock rs before e).digest = e.digest := digest_renewed ..

theorem revisionAfter_eq (h : stampName? e = some n) (clock : Nat → Int) (rs : Revisions)
    (before : List Json) : revisionAfter clock rs before e =
      .next (clock before.length) e.digest (Assoc.get? n (pass clock 0 before rs)) :=
  renewed_eq h _ _

/-- A pass cut at an entry, where the revision of the entry is remembered. -/
theorem exists_pass_eq (h : stampName? e = some n) (clock : Nat → Int) (rs : Revisions)
    (before after : List Json) :
    ∃ rs', Assoc.get? n rs' = some (revisionAfter clock rs before e) ∧
      pass clock 0 (before ++ e :: after) rs = pass clock (before.length + 1) after rs' := by
  refine ⟨(readEntry (clock before.length) e (pass clock 0 before rs)).2, ?_, ?_⟩
  · rw [get?_readEntry, if_pos h, revisionAfter]
  · rw [pass_append, pass_cons, Nat.zero_add]

/-- The route of an entry that comes after others. -/
def routeAfter (clock : Nat → Int) (rs : Revisions) (p : List Json × Json) : Option Route :=
  routeOf p.2 (revisionAfter clock rs p.1 p.2).stamp

/-- Each element of a list with all that comes before it. -/
def splits {α : Type} : List α → List (List α × α)
  | [] => []
  | a :: as => ([], a) :: (splits as).map fun p => (a :: p.1, p.2)

theorem splits_concat {α : Type} (as : List α) (a : α) :
    splits (as ++ [a]) = splits as ++ [(as, a)] := by
  induction as with
  | nil => rfl
  | cons b as ih => simp [splits, ih]

theorem exists_of_mem_splits {α : Type} {as : List α} {p : List α × α} (h : p ∈ splits as) :
    ∃ after, as = p.1 ++ p.2 :: after := by
  induction as using List.reverseRecOn with
  | nil => cases h
  | append_singleton as a ih =>
    rw [splits_concat] at h
    rcases List.mem_append.mp h with h | h
    · obtain ⟨after, hafter⟩ := ih h
      exact ⟨after ++ [a], by rw [hafter]; simp⟩
    · rw [List.mem_singleton.mp h]
      exact ⟨[], rfl⟩

theorem map_snd_splits {α : Type} (as : List α) : (splits as).map Prod.snd = as := by
  induction as with
  | nil => rfl
  | cons a as ih =>
    rw [splits, List.map_cons, List.map_map]
    exact congrArg (a :: ·) ih

/-- The routes of a list of entries, one by one. -/
theorem converting_readEntries (clock : Nat → Int) (es : List Json) (rs : Revisions) :
    Batch.converting (readEntries clock 0 es rs).1 =
      (splits es).filterMap (routeAfter clock rs) := by
  induction es using List.reverseRecOn with
  | nil => rfl
  | append_singleton es e ih =>
    have hlast : (readEntries clock (0 + es.length) [e] (pass clock 0 es rs)).1 =
        (readEntry (clock es.length) e (pass clock 0 es rs)).1.toList := by
      rw [Nat.zero_add]
      exact List.append_nil _
    rw [readEntries_append, hlast, Batch.converting_append, ih, converting_readEntry, splits_concat,
      List.filterMap_append]
    rfl

/-! ## What a pass remembers of a name -/

theorem get?_pass_of_absent {es : List Json} (h : ∀ e ∈ es, stampName? e ≠ some n)
    (clock : Nat → Int) (i : Nat) (rs : Revisions) :
    Assoc.get? n (pass clock i es rs) = Assoc.get? n rs := by
  induction es generalizing i rs with
  | nil => rfl
  | cons e es ih =>
    obtain ⟨he, hes⟩ := List.forall_mem_cons.mp h
    rw [pass_cons, ih hes, get?_readEntry, if_neg he]

theorem get?_readList (clock : Nat → Int) (es : List Json) (rs : Revisions) (n : String) :
    Assoc.get? n (readList clock es rs).2 =
      if n ∈ (readList clock es rs).1.map Route.name then Assoc.get? n (pass clock 0 es rs)
      else none :=
  Revisions.get?_retain ..

theorem readList_fst (clock : Nat → Int) (es : List Json) (rs : Revisions) :
    (readList clock es rs).1 = Batch.gather ((splits es).filterMap (routeAfter clock rs)) := by
  rw [← converting_readEntries]
  rfl

theorem nodup_names_readList (clock : Nat → Int) (es : List Json) (rs : Revisions) :
    ((readList clock es rs).1.map Route.name).Nodup := by
  rw [readList_fst]
  exact Batch.nodup_names_gather _

/-- A body without a version, and below what it defines and makes. -/
def body (port : String) : Json :=
  .record [("id", .text "d"), ("pathPrefix", .text "/"),
    ("target", .text ("http://[::1]:" ++ port))]

end RouteService
end Gateway
