import Gateway.Proofs.Batches
import Gateway.Proofs.Validated

/-! # Duplicates: which route is kept of definitions that share a name, and where it stands -/
namespace Gateway
open Text

namespace Definition

/-- Whether a definition makes a route. -/
def converts (d : Definition) : Bool := d.validate.isOk

/-- Whether a definition makes a route of a name. -/
def convertsAs (n : String) (d : Definition) : Bool := d.converts && trim d.name == n

variable {d : Definition} {n : String} {r : Route}

theorem converts_iff : d.converts = true ↔ ∃ r, d.validate = .ok r := by
  rw [converts]
  cases d.validate with
  | error fault => exact ⟨(fun h => nomatch h), fun ⟨_, h⟩ => nomatch h⟩
  | ok r => exact ⟨fun _ => ⟨r, rfl⟩, fun _ => rfl⟩

theorem convertsAs_iff : d.convertsAs n = true ↔ ∃ r, d.validate = .ok r ∧ r.name = n := by
  rw [convertsAs, Bool.and_eq_true, beq_iff_eq, converts_iff]
  constructor
  · rintro ⟨⟨r, hr⟩, hname⟩
    exact ⟨r, hr, (makes_of_validate hr).name.trans hname⟩
  · rintro ⟨r, hr, hname⟩
    exact ⟨⟨r, hr⟩, (makes_of_validate hr).name.symm.trans hname⟩

/-- A definition is heard with its own version wherever it makes a route. -/
theorem forall_validate_iff {p : Int → Prop} :
    (∀ x, d.validate = .ok x → x.name = n → p x.updatedAt) ↔
      (d.convertsAs n = true → p d.updatedAt) := by
  constructor
  · intro h hd
    obtain ⟨x, hx, hname⟩ := convertsAs_iff.mp hd
    rw [← (makes_of_validate hx).updatedAt]
    exact h x hx hname
  · intro h x hx hname
    rw [(makes_of_validate hx).updatedAt]
    exact h (convertsAs_iff.mpr ⟨x, hx, hname⟩)

end Definition

namespace Batch
open Definition
variable {ds : List Definition} {d : Definition} {n : String} {r : Route}

theorem toOption_eq_some_iff : d.validate.toOption = some r ↔ d.validate = .ok r := by
  cases d.validate with
  | error fault => exact ⟨(fun h => nomatch h), fun h => nomatch h⟩
  | ok x => simp [Except.toOption]

/-- The definition whose route is kept: the earliest of the newest ones of its name. -/
def IsKept (ds : List Definition) (r : Route) : Prop :=
  ∃ before d after, ds = before ++ d :: after ∧ d.validate = .ok r ∧
    (∀ a ∈ before, a.convertsAs r.name = true → a.updatedAt < d.updatedAt) ∧
    ∀ a ∈ after, a.convertsAs r.name = true → a.updatedAt ≤ d.updatedAt

theorem isKept_iff : IsKept ds r ↔ Wins (converting ds) r := by
  rw [IsKept, converting, wins_filterMap_iff]
  refine exists_congr fun before => exists_congr fun d => exists_congr fun after =>
    and_congr_right fun _ => ?_
  simp only [toOption_eq_some_iff]
  refine and_congr_right fun hd => ?_
  rw [(makes_of_validate hd).updatedAt]
  refine and_congr (forall₂_congr fun a _ => ?_) (forall₂_congr fun a _ => ?_)
  · exact (forall_validate_iff (p := (· < d.updatedAt))).symm
  · exact (forall_validate_iff (p := (· ≤ d.updatedAt))).symm

theorem mem_validate_iff_isKept : r ∈ validate ds ↔ IsKept ds r := by
  rw [mem_validate_iff, isKept_iff]

theorem mem_names_validate_iff :
    n ∈ (validate ds).map Route.name ↔ ∃ d ∈ ds, d.convertsAs n = true := by
  rw [show validate ds = gather (converting ds) from rfl, mem_names_gather, converting,
    List.mem_map]
  simp only [List.mem_filterMap, toOption_eq_some_iff, convertsAs_iff]
  constructor
  · rintro ⟨r, ⟨d, hd, hr⟩, hname⟩
    exact ⟨d, hd, r, hr, hname⟩
  · rintro ⟨d, hd, r, hr, hname⟩
    exact ⟨r, ⟨d, hd, hr⟩, hname⟩

/-- The place of the first definition that makes a route of a name. -/
def firstPlace (ds : List Definition) (n : String) : Nat := ds.findIdx (convertsAs n)

theorem firstPlace_lt_length (h : n ∈ (validate ds).map Route.name) :
    firstPlace ds n < ds.length :=
  List.findIdx_lt_length.mpr (mem_names_validate_iff.mp h)

theorem firstPlace_eq_length (h : n ∉ (validate ds).map Route.name) :
    firstPlace ds n = ds.length := by
  refine List.findIdx_eq_length.mpr fun d hd => ?_
  by_contra hconverts
  exact h (mem_names_validate_iff.mpr ⟨d, hd, eq_true_of_ne_false hconverts⟩)

/-- One more definition moves no first place. -/
theorem firstPlace_concat_of_mem (d : Definition) (h : n ∈ (validate ds).map Route.name) :
    firstPlace (ds ++ [d]) n = firstPlace ds n := by
  rw [firstPlace, List.findIdx_append, ← firstPlace, if_pos (firstPlace_lt_length h)]

theorem length_le_firstPlace_concat (d : Definition) (h : n ∉ (validate ds).map Route.name) :
    ds.length ≤ firstPlace (ds ++ [d]) n := by
  rw [firstPlace, List.findIdx_append, ← firstPlace, firstPlace_eq_length h,
    if_neg (Nat.lt_irrefl _)]
  exact Nat.le_add_left _ _

theorem validate_concat_of_error {fault : Fault} (h : d.validate = .error fault) :
    validate (ds ++ [d]) = validate ds := by
  have hnone : converting [d] = [] := List.filterMap_cons_none (by rw [h]; rfl)
  rw [validate, converting_append, hnone, List.append_nil, ← validate]

theorem validate_concat_of_ok (h : d.validate = .ok r) :
    validate (ds ++ [d]) = put r (validate ds) := by
  have hone : converting [d] = [r] := List.filterMap_cons_some (by rw [h]; rfl)
  rw [validate, converting_append, hone, List.foldl_concat, ← validate]

/-- The names stand in the order of their first definitions. -/
theorem names_validate_ordered (ds : List Definition) :
    ((validate ds).map Route.name).Pairwise fun m n => firstPlace ds m < firstPlace ds n := by
  induction ds using List.reverseRecOn with
  | nil => exact List.Pairwise.nil
  | append_singleton ds d ih =>
    have hold : ((validate ds).map Route.name).Pairwise fun m n =>
        firstPlace (ds ++ [d]) m < firstPlace (ds ++ [d]) n := by
      refine ih.imp_of_mem fun hm hn hlt => ?_
      rw [firstPlace_concat_of_mem d hm, firstPlace_concat_of_mem d hn]
      exact hlt
    cases hd : d.validate with
    | error fault =>
      rw [validate_concat_of_error hd]
      exact hold
    | ok r =>
      rw [validate_concat_of_ok hd, map_name_put]
      split_ifs with hr
      · exact hold
      · refine List.pairwise_append.mpr ⟨hold, List.pairwise_singleton _ _, fun m hm n hn => ?_⟩
        rw [List.mem_singleton.mp hn, firstPlace_concat_of_mem d hm]
        exact (firstPlace_lt_length hm).trans_le (length_le_firstPlace_concat d hr)

/-- The routes that are to be kept of definitions. -/
structure Keeps (ds : List Definition) (rs : List Route) : Prop where
  nodup : (rs.map Route.name).Nodup
  /-- The names are those, without outer blanks, under which some definition makes a route. -/
  names : ∀ n, n ∈ rs.map Route.name ↔ ∃ d ∈ ds, d.convertsAs n = true
  kept : ∀ r ∈ rs, IsKept ds r
  order : (rs.map Route.name).Pairwise fun m n => firstPlace ds m < firstPlace ds n

theorem keeps_validate (ds : List Definition) : Keeps ds (validate ds) where
  nodup := nodup_names_validate ds
  names _ := mem_names_validate_iff
  kept _ hr := mem_validate_iff_isKept.mp hr
  order := names_validate_ordered ds

/-- No other list will do. -/
theorem Keeps.eq_validate {rs : List Route} (h : Keeps ds rs) : rs = validate ds := by
  have hperm : (rs.map Route.name).Perm ((validate ds).map Route.name) :=
    (List.perm_ext_iff_of_nodup h.nodup (nodup_names_validate ds)).mpr fun n =>
      (h.names n).trans mem_names_validate_iff.symm
  have hnames : rs.map Route.name = (validate ds).map Route.name :=
    hperm.eq_of_pairwise (fun _ _ _ _ hlt hgt => absurd hlt hgt.asymm) h.order
      (names_validate_ordered ds)
  exact eq_of_subset hnames (nodup_names_validate ds) fun r hr =>
    mem_validate_iff_isKept.mpr (h.kept r hr)

/-- Only the definitions that make routes matter. -/
theorem converting_filter (ds : List Definition) :
    converting (ds.filter converts) = converting ds := by
  rw [converting, List.filterMap_filter]
  refine List.filterMap_congr fun d _ => ?_
  rw [converts]
  cases d.validate <;> rfl

/-- Of each name under which definitions make routes one route is kept: that of the earliest of the
newest ones, at the place where the name first comes up. That leaves no choice, and definitions that
make no routes can be put in or taken out anywhere. -/
theorem validate_keeps (ds : List Definition) :
    (∀ rs, Keeps ds rs ↔ rs = validate ds) ∧
      ∀ ds', ds'.filter converts = ds.filter converts → validate ds' = validate ds := by
  refine ⟨fun rs => ⟨Keeps.eq_validate, ?_⟩, fun ds' h => ?_⟩
  · rintro rfl
    exact keeps_validate ds
  · rw [validate, validate, ← converting_filter ds', h, converting_filter]

end Batch
end Gateway
