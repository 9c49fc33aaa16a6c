import Gateway.Repository
import Gateway.Proofs.Timelines
import Mathlib.Data.List.Basic
import Mathlib.Data.List.Induction
import Mathlib.Data.List.Nodup
import Mathlib.Order.Basic
import Mathlib.Algebra.Order.Ring.Int

/-! # Batches: of the routes of one name the newest stays, and of equally new ones the first -/
namespace Gateway.Batch

/-- The routes that stay of a list. -/
def gather (rs : List Route) : List Route := rs.foldl (fun kept r => put r kept) []

theorem gather_concat (rs : List Route) (r : Route) : gather (rs ++ [r]) = put r (gather rs) := by
  rw [gather, List.foldl_concat, ← gather]

/-- A route that stays: none of its name is newer, and none before it as new. -/
def Wins (rs : List Route) (r : Route) : Prop :=
  ∃ before after, rs = before ++ r :: after ∧
    (∀ a ∈ before, a.name = r.name → a.updatedAt < r.updatedAt) ∧
    ∀ a ∈ after, a.name = r.name → a.updatedAt ≤ r.updatedAt

namespace Wins
variable {rs : List Route} {r x : Route}

theorem mem (h : Wins rs r) : r ∈ rs := by
  obtain ⟨before, after, rfl, -⟩ := h
  exact List.mem_append_right _ List.mem_cons_self

theorem le (h : Wins rs r) {a : Route} (ha : a ∈ rs) (hname : a.name = r.name) :
    a.updatedAt ≤ r.updatedAt := by
  obtain ⟨before, after, rfl, hbefore, hafter⟩ := h
  rcases List.mem_append.mp ha with ha | ha
  · exact (hbefore a ha hname).le
  · rcases List.mem_cons.mp ha with rfl | ha
    · exact le_rfl
    · exact hafter a ha hname

/-- One more route leaves a winner where it is unless it is newer, and wins itself only if it is newer
than all before it. -/
theorem concat_iff : Wins (rs ++ [x]) r ↔
    (Wins rs r ∧ (x.name = r.name → x.updatedAt ≤ r.updatedAt)) ∨
      (r = x ∧ ∀ a ∈ rs, a.name = x.name → a.updatedAt < x.updatedAt) := by
  constructor
  · rintro ⟨before, after, hsplit, hbefore, hafter⟩
    obtain ⟨rfl, rfl, -⟩ | ⟨between, rfl, rfl⟩ := concat_eq_append_cons hsplit
    · exact Or.inr ⟨rfl, hbefore⟩
    · obtain ⟨hbetween, hx⟩ := List.forall_mem_append.mp hafter
      exact Or.inl ⟨⟨before, between, rfl, hbefore, hbetween⟩, hx x (List.mem_singleton_self x)⟩
  · rintro (⟨⟨before, after, rfl, hbefore, hafter⟩, hx⟩ | ⟨rfl, hall⟩)
    · refine ⟨before, after ++ [x], by rw [List.append_assoc, List.cons_append], hbefore, ?_⟩
      intro a ha
      rcases List.mem_append.mp ha with ha | ha
      · exact hafter a ha
      · rw [List.mem_singleton.mp ha]
        exact hx
    · exact ⟨rs, [], rfl, hall, fun a ha => nomatch ha⟩

end Wins

/-- Winners of what a list is read as, by where they are read. -/
theorem wins_filterMap_iff {α : Type} {f : α → Option Route} {as : List α} {r : Route} :
    Wins (as.filterMap f) r ↔ ∃ before a after, as = before ++ a :: after ∧ f a = some r ∧
      (∀ b ∈ before, ∀ x, f b = some x → x.name = r.name → x.updatedAt < r.updatedAt) ∧
      ∀ b ∈ after, ∀ x, f b = some x → x.name = r.name → x.updatedAt ≤ r.updatedAt := by
  constructor
  · rintro ⟨before, after, hsplit, hbefore, hafter⟩
    obtain ⟨as₁, as₂, rfl, rfl, h₂⟩ := List.filterMap_eq_append_iff.mp hsplit
    obtain ⟨skipped, a, as₃, rfl, hskipped, ha, rfl⟩ := List.filterMap_eq_cons_iff.mp h₂
    refine ⟨as₁ ++ skipped, a, as₃, by simp, ha, fun b hb x hx => ?_, fun b hb x hx => ?_⟩
    · rcases List.mem_append.mp hb with hb | hb
      · exact hbefore x (List.mem_filterMap.mpr ⟨b, hb, hx⟩)
      · rw [hskipped b hb] at hx
        cases hx
    · exact hafter x (List.mem_filterMap.mpr ⟨b, hb, hx⟩)
  · rintro ⟨before, a, after, rfl, ha, hbefore, hafter⟩
    refine ⟨before.filterMap f, after.filterMap f, ?_, fun x hx => ?_, fun x hx => ?_⟩
    · rw [List.filterMap_append, List.filterMap_cons_some ha]
    · obtain ⟨b, hb, hx⟩ := List.mem_filterMap.mp hx
      exact hbefore b hb x hx
    · obtain ⟨b, hb, hx⟩ := List.mem_filterMap.mp hx
      exact hafter b hb x hx

/-- Of the routes of a name there is one that stays. -/
theorem exists_wins (rs : List Route) {n : String} (hn : n ∈ rs.map Route.name) :
    ∃ r, Wins rs r ∧ r.name = n := by
  induction rs using List.reverseRecOn generalizing n with
  | nil => cases hn
  | append_singleton rs x ih =>
    by_cases hx : n = x.name
    · subst hx
      by_cases hall : ∀ a ∈ rs, a.name = x.name → a.updatedAt < x.updatedAt
      · exact ⟨x, Wins.concat_iff.mpr (Or.inr ⟨rfl, hall⟩), rfl⟩
      · push Not at hall
        obtain ⟨a, ha, hname, hle⟩ := hall
        obtain ⟨r, hr, hrname⟩ := ih (List.mem_map_of_mem ha)
        have hra : a.updatedAt ≤ r.updatedAt := hr.le ha hrname.symm
        exact ⟨r, Wins.concat_iff.mpr (Or.inl ⟨hr, fun _ => hle.trans hra⟩), hrname.trans hname⟩
    · have hold : n ∈ rs.map Route.name := by simpa [hx] using hn
      obtain ⟨r, hr, hrname⟩ := ih hold
      refine ⟨r, Wins.concat_iff.mpr (Or.inl ⟨hr, fun hname => ?_⟩), hrname⟩
      exact absurd (hrname.symm.trans hname.symm) hx

/-- A route of a new name comes at the end, any other one changes no name. -/
theorem map_name_put (r : Route) (ks : List Route) :
    (put r ks).map Route.name =
      if r.name ∈ ks.map Route.name then ks.map Route.name else ks.map Route.name ++ [r.name] := by
  induction ks with
  | nil => rfl
  | cons k ks ih =>
    rw [put]
    by_cases hk : k.name = r.name
    · have hhead : (if k.updatedAt < r.updatedAt then r else k).name = k.name := by
        split_ifs
        · exact hk.symm
        · rfl
      rw [if_pos hk, List.map_cons, List.map_cons, hhead, if_pos (by simp [hk])]
    · have hmem : r.name ∈ (k :: ks).map Route.name ↔ r.name ∈ ks.map Route.name := by
        simp [Ne.symm hk]
      rw [if_neg hk, List.map_cons, ih]
      simp only [hmem]
      split_ifs <;> rfl

theorem put_of_new {r : Route} {ks : List Route} (h : r.name ∉ ks.map Route.name) :
    put r ks = ks ++ [r] := by
  induction ks with
  | nil => rfl
  | cons k ks ih =>
    rw [List.map_cons, List.mem_cons, not_or] at h
    rw [put, if_neg (Ne.symm h.1), ih h.2, List.cons_append]

theorem nodup_names_put {ks : List Route} (h : (ks.map Route.name).Nodup) (r : Route) :
    ((put r ks).map Route.name).Nodup := by
  rw [map_name_put]
  split_ifs with hr
  · exact h
  · exact List.nodup_append.mpr ⟨h, List.nodup_singleton _, by simpa using hr⟩

/-- What is there after a route was put: it may take the place of an older one of its name. -/
theorem mem_put_iff {ks : List Route} (h : (ks.map Route.name).Nodup) (x r : Route) :
    r ∈ put x ks ↔ (r ∈ ks ∧ (x.name = r.name → x.updatedAt ≤ r.updatedAt)) ∨
      (r = x ∧ ∀ k ∈ ks, k.name = x.name → k.updatedAt < x.updatedAt) := by
  induction ks with
  | nil => simp [put]
  | cons k ks ih =>
    obtain ⟨hk, hks⟩ := List.nodup_cons.mp h
    rw [put]
    by_cases hname : k.name = x.name
    · have hother : ∀ a ∈ ks, a.name ≠ x.name := by
        intro a ha haname
        exact hk (hname.trans haname.symm ▸ List.mem_map_of_mem ha)
      rw [if_pos hname]
      split_ifs with hlt
      · grind
      · grind
    · rw [if_neg hname, List.mem_cons, ih hks]
      grind

theorem nodup_names_gather (rs : List Route) : ((gather rs).map Route.name).Nodup := by
  induction rs using List.reverseRecOn with
  | nil => exact List.nodup_nil
  | append_singleton rs x ih =>
    rw [gather_concat]
    exact nodup_names_put ih x

/-- The routes that stay are those that win. -/
theorem mem_gather_iff (rs : List Route) (r : Route) : r ∈ gather rs ↔ Wins rs r := by
  induction rs using List.reverseRecOn generalizing r with
  | nil => exact ⟨(fun h => nomatch h), fun h => nomatch h.mem⟩
  | append_singleton rs x ih =>
    have hnewest : (∀ k ∈ gather rs, k.name = x.name → k.updatedAt < x.updatedAt) ↔
        ∀ a ∈ rs, a.name = x.name → a.updatedAt < x.updatedAt := by
      constructor
      · intro hkept a ha hname
        obtain ⟨r, hr, hrname⟩ := exists_wins rs (List.mem_map_of_mem ha)
        have hlt := hkept r ((ih r).mpr hr) (hrname.trans hname)
        exact (hr.le ha hrname.symm).trans_lt hlt
      · exact fun hall k hk => hall k ((ih k).mp hk).mem
    rw [gather_concat, mem_put_iff (nodup_names_gather rs), ih, Wins.concat_iff, hnewest]

theorem mem_names_gather (rs : List Route) (n : String) :
    n ∈ (gather rs).map Route.name ↔ n ∈ rs.map Route.name := by
  constructor
  · intro hn
    obtain ⟨r, hr, rfl⟩ := List.mem_map.mp hn
    exact List.mem_map_of_mem ((mem_gather_iff rs r).mp hr).mem
  · intro hn
    obtain ⟨r, hr, rfl⟩ := exists_wins rs hn
    exact List.mem_map_of_mem ((mem_gather_iff rs r).mpr hr)

/-- Where each name occurs once, every route stays. -/
theorem gather_eq_self {rs : List Route} (h : (rs.map Route.name).Nodup) : gather rs = rs := by
  induction rs using List.reverseRecOn with
  | nil => rfl
  | append_singleton rs r ih =>
    rw [List.map_append, List.nodup_append] at h
    obtain ⟨hrs, -, hdisjoint⟩ := h
    rw [gather_concat, ih hrs]
    exact put_of_new fun hr => hdisjoint r.name hr r.name (List.mem_singleton_self _) rfl

theorem converting_append (ds es : List Definition) :
    converting (ds ++ es) = converting ds ++ converting es := List.filterMap_append

theorem nodup_names_validate (ds : List Definition) : ((validate ds).map Route.name).Nodup :=
  nodup_names_gather (converting ds)

theorem mem_validate_iff (ds : List Definition) (r : Route) :
    r ∈ validate ds ↔ Wins (converting ds) r :=
  mem_gather_iff (converting ds) r

/-- Lists with the same names, each once, are equal if one has no other routes than the other. -/
theorem eq_of_subset {xs ys : List Route} (hnames : xs.map Route.name = ys.map Route.name)
    (hnodup : (ys.map Route.name).Nodup) (hsub : xs ⊆ ys) : xs = ys := by
  refine List.ext_getElem (by simpa using congrArg List.length hnames) fun i hi hi' => ?_
  refine List.inj_on_of_nodup_map hnodup (hsub (List.getElem_mem hi)) (List.getElem_mem hi') ?_
  have hat : (xs.map Route.name)[i]? = (ys.map Route.name)[i]? := by rw [hnames]
  simpa [hi, hi'] using hat

end Gateway.Batch
