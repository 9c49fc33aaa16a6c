import Gateway.Proofs.Specificity

/-! # Stable order: by rank, and those of one rank as they stood -/
namespace Gateway

/-- A list in order: the lowest rank goes first, and those of one rank stay as they stood. -/
structure StablyOrders (rs ts : List Route) : Prop where
  sorted : ts.Pairwise fun a b => a.rank ≤ b.rank
  level : ∀ k, ts.filter (·.rank = k) = rs.filter (·.rank = k)

/-- Sorting leaves the routes of one rank as they stand, since these are in order already. -/
theorem filter_rank_bySpecificity (rs : List Route) (k : ℕᵒᵈ ×ₗ Bool ×ₗ Bool ×ₗ String) :
    (bySpecificity rs).filter (·.rank = k) = rs.filter (·.rank = k) := by
  have hrank : ∀ a ∈ rs.filter (·.rank = k), a.rank = k := fun a ha =>
    of_decide_eq_true (List.mem_filter.mp ha).2
  have hlevel : (rs.filter (·.rank = k)).Pairwise fun a b => a.ahead b = true :=
    List.pairwise_of_forall_mem_list fun a ha b hb => by
      rw [Route.ahead_iff, hrank a ha, hrank b hb]
  have hsub : (rs.filter (·.rank = k)).Sublist (bySpecificity rs) :=
    List.sublist_mergeSort Route.ahead_trans Route.ahead_total hlevel List.filter_sublist
  have hlength : (rs.filter (·.rank = k)).length = ((bySpecificity rs).filter (·.rank = k)).length :=
    ((bySpecificity_perm rs).filter _).length_eq.symm
  have hfilter := hsub.filter fun r => decide (r.rank = k)
  rw [List.filter_filter] at hfilter
  simp only [Bool.and_self] at hfilter
  exact (hfilter.eq_of_length hlength).symm

/-- Lists by rank that have the same routes of each rank, in the same order, are the same. -/
theorem eq_of_level {ts us : List Route} (ht : ts.Pairwise fun a b => a.rank ≤ b.rank)
    (hu : us.Pairwise fun a b => a.rank ≤ b.rank)
    (h : ∀ k, ts.filter (·.rank = k) = us.filter (·.rank = k)) : ts = us := by
  induction ts generalizing us with
  | nil =>
    cases us with
    | nil => rfl
    | cons b us => simpa using h b.rank
  | cons a ts ih =>
    cases us with
    | nil => simpa using h a.rank
    | cons b us =>
      have hmem : ∀ r, r ∈ a :: ts ↔ r ∈ b :: us := fun r => by
        simpa using congrArg (r ∈ ·) (h r.rank)
      obtain ⟨hat, hts⟩ := List.pairwise_cons.mp ht
      obtain ⟨hbu, hus⟩ := List.pairwise_cons.mp hu
      have hle : ∀ {c d : Route} {cs : List Route}, (∀ e ∈ cs, c.rank ≤ e.rank) → d ∈ c :: cs →
          c.rank ≤ d.rank := by
        intro c d cs hcs hd
        rcases List.mem_cons.mp hd with rfl | hd
        · exact le_rfl
        · exact hcs d hd
      have hrank : a.rank = b.rank :=
        le_antisymm (hle hat ((hmem b).mpr List.mem_cons_self))
          (hle hbu ((hmem a).mp List.mem_cons_self))
      have hfirst := h a.rank
      rw [List.filter_cons_of_pos (by simp), List.filter_cons_of_pos (by simp [hrank])] at hfirst
      obtain ⟨rfl, -⟩ := List.cons.inj hfirst
      have hrest : ∀ k, ts.filter (·.rank = k) = us.filter (·.rank = k) := by
        intro k
        have hk := h k
        by_cases ha : a.rank = k
        · simpa [ha] using hk
        · simpa [ha] using hk
      rw [ih hts hus hrest]

namespace StablyOrders
variable {rs ts us : List Route}

/-- Sorting puts a list in order, also one that stands otherwise as long as it has the routes of
each rank as they should stand. -/
theorem of_level (h : ∀ k, us.filter (·.rank = k) = rs.filter (·.rank = k)) :
    StablyOrders rs (bySpecificity us) :=
  ⟨bySpecificity_sorted us, fun k => (filter_rank_bySpecificity us k).trans (h k)⟩

theorem bySpecificity (rs : List Route) : StablyOrders rs (bySpecificity rs) :=
  of_level fun _ => rfl

theorem mem_iff (h : StablyOrders rs ts) (r : Route) : r ∈ ts ↔ r ∈ rs := by
  have hlevel := congrArg (r ∈ ·) (h.level r.rank)
  simpa using hlevel

theorem filter (h : StablyOrders rs ts) (p : Route → Bool) :
    StablyOrders (rs.filter p) (ts.filter p) := by
  refine ⟨h.sorted.filter p, fun k => ?_⟩
  rw [List.filter_comm, h.level, List.filter_comm]

/-- What comes last is put behind those of its rank. -/
theorem concat (h : StablyOrders rs ts) (r : Route) :
    StablyOrders (rs ++ [r]) (Gateway.bySpecificity (ts ++ [r])) :=
  of_level fun k => by rw [List.filter_append, List.filter_append, h.level]

theorem resort (h : StablyOrders rs ts) : StablyOrders rs (Gateway.bySpecificity ts) :=
  of_level h.level

/-- There is one way to put a list in order. -/
theorem unique (h : StablyOrders rs ts) (h' : StablyOrders rs us) : ts = us :=
  eq_of_level h.sorted h'.sorted fun k => (h.level k).trans (h'.level k).symm

theorem iff_eq (h : StablyOrders rs ts) (us : List Route) : StablyOrders rs us ↔ us = ts :=
  ⟨fun h' => h'.unique h, fun he => he ▸ h⟩

/-- With different names there are no two routes of one rank. -/
theorem lists (h : StablyOrders rs ts) (hn : (rs.map Route.name).Nodup) : Lists (· ∈ rs) ts := by
  refine ⟨h.mem_iff, ?_⟩
  rw [h.unique (.bySpecificity rs)]
  exact bySpecificity_strict hn

end StablyOrders
end Gateway
