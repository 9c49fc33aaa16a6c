import Gateway.Lookup
import Mathlib.Data.List.Nodup
import Mathlib.Data.Prod.Lex
import Mathlib.Data.String.Basic

/-! # Specificity: the order in which routes are tried, and the one list in this order -/
namespace Gateway

namespace Route

/-- What routes are compared by, the lowest rank going first: the longest prefix in bytes, then a
pattern before none, methods before none, and the name. -/
def rank (r : Route) : ℕᵒᵈ ×ₗ Bool ×ₗ Bool ×ₗ String :=
  toLex (OrderDual.toDual r.prefixLength,
    toLex (r.rule.pattern.isNone, toLex (r.rule.methods.isNone, r.name)))

theorem rank_le_iff (a b : Route) :
    a.rank ≤ b.rank ↔ b.prefixLength < a.prefixLength ∨ a.prefixLength = b.prefixLength ∧
      (a.rule.pattern.isNone < b.rule.pattern.isNone ∨
        a.rule.pattern.isNone = b.rule.pattern.isNone ∧
          (a.rule.methods.isNone < b.rule.methods.isNone ∨
            a.rule.methods.isNone = b.rule.methods.isNone ∧ a.name ≤ b.name)) := by
  simp only [rank, Prod.Lex.toLex_le_toLex, OrderDual.toDual_lt_toDual, OrderDual.toDual_inj]

private theorem flag_lt_iff {α : Type} (o o' : Option α) :
    o.isNone < o'.isNone ↔ o.isSome = true ∧ o'.isSome = false := by
  cases o <;> cases o' <;> simp

private theorem flag_eq_iff {α : Type} (o o' : Option α) :
    o.isNone = o'.isNone ↔ o.isSome = o'.isSome := by
  cases o <;> cases o' <;> simp

theorem ahead_iff (a b : Route) : a.ahead b = true ↔ a.rank ≤ b.rank := by
  rw [rank_le_iff, flag_lt_iff, flag_lt_iff, flag_eq_iff, flag_eq_iff, ahead]
  by_cases hl : a.prefixLength = b.prefixLength
  · cases a.rule.pattern.isSome <;> cases b.rule.pattern.isSome <;>
      cases a.rule.methods.isSome <;> cases b.rule.methods.isSome <;> simp [hl]
  · simp [hl]

theorem ahead_trans (a b c : Route) (hab : a.ahead b = true) (hbc : b.ahead c = true) :
    a.ahead c = true :=
  (ahead_iff a c).mpr (((ahead_iff a b).mp hab).trans ((ahead_iff b c).mp hbc))

theorem ahead_total (a b : Route) : (a.ahead b || b.ahead a) = true := by
  rw [Bool.or_eq_true, ahead_iff, ahead_iff]
  exact le_total a.rank b.rank

theorem name_eq_of_rank_eq {a b : Route} (h : a.rank = b.rank) : a.name = b.name :=
  congrArg (fun k => (ofLex (ofLex (ofLex k).2).2).2) h

end Route

theorem bySpecificity_perm (rs : List Route) : (bySpecificity rs).Perm rs :=
  List.mergeSort_perm rs Route.ahead

theorem bySpecificity_sorted (rs : List Route) :
    (bySpecificity rs).Pairwise fun a b => a.rank ≤ b.rank := by
  have h := List.pairwise_mergeSort Route.ahead_trans Route.ahead_total rs
  exact h.imp fun hab => (Route.ahead_iff _ _).mp hab

/-- Routes of different names have different ranks, so that no two of them are level. -/
theorem bySpecificity_strict {rs : List Route} (h : (rs.map Route.name).Nodup) :
    (bySpecificity rs).Pairwise fun a b => a.rank < b.rank := by
  have hn : (bySpecificity rs).Pairwise fun a b => a.name ≠ b.name :=
    List.pairwise_map.mp (((bySpecificity_perm rs).map Route.name).nodup_iff.mpr h)
  exact (bySpecificity_sorted rs).imp₂ (fun a b hle hne =>
    lt_of_le_of_ne hle fun he => hne (Route.name_eq_of_rank_eq he)) hn

theorem bySpecificity_of_sorted {rs : List Route} (h : rs.Pairwise fun a b => a.rank < b.rank) :
    bySpecificity rs = rs :=
  List.mergeSort_of_pairwise (h.imp fun hab => (Route.ahead_iff _ _).mpr hab.le)

/-- A list that holds the routes of a kind and no others, the lowest rank first. -/
structure Lists (p : Route → Prop) (rs : List Route) : Prop where
  mem_iff : ∀ r, r ∈ rs ↔ p r
  sorted : rs.Pairwise fun a b => a.rank < b.rank

namespace Lists
variable {p q : Route → Prop} {rs ts : List Route}

theorem nil (h : ∀ r, ¬p r) : Lists p [] := ⟨fun r => by simp [h r], List.Pairwise.nil⟩

theorem congr (h : Lists p rs) (hpq : ∀ r, p r ↔ q r) : Lists q rs :=
  ⟨fun r => (h.mem_iff r).trans (hpq r), h.sorted⟩

theorem nodup (h : Lists p rs) : rs.Nodup :=
  h.sorted.imp fun hab he => hab.ne (congrArg Route.rank he)

/-- The routes of a kind can be listed in one way only. -/
theorem unique (h : Lists p rs) (h' : Lists p ts) : rs = ts := by
  have hperm : rs.Perm ts := (List.perm_ext_iff_of_nodup h.nodup h'.nodup).mpr fun r =>
    (h.mem_iff r).trans (h'.mem_iff r).symm
  exact hperm.eq_of_pairwise (fun a b _ _ hab hba => absurd hba hab.asymm) h.sorted h'.sorted

/-- Sorting a list that is in order changes nothing. -/
theorem bySpecificity_eq (h : Lists p rs) : bySpecificity rs = rs :=
  bySpecificity_of_sorted h.sorted

theorem remove (h : Lists p rs) (name : String) :
    Lists (fun a => p a ∧ a.name ≠ name) (rs.filter (·.name != name)) := by
  refine ⟨fun a => ?_, h.sorted.filter _⟩
  rw [List.mem_filter, h.mem_iff, bne_iff_ne]

theorem nodup_names (h : Lists p rs) (hone : ∀ a b, p a → p b → a.name = b.name → a = b) :
    (rs.map Route.name).Nodup :=
  h.nodup.map_on fun a ha b hb => hone a b ((h.mem_iff a).mp ha) ((h.mem_iff b).mp hb)

/-- A route of a new name finds its place. -/
theorem insert (h : Lists p rs) (hone : ∀ a b, p a → p b → a.name = b.name → a = b) {r : Route}
    (hnew : ∀ a, p a → a.name ≠ r.name) :
    Lists (fun a => p a ∨ a = r) (bySpecificity (rs ++ [r])) := by
  refine ⟨fun a => ?_, bySpecificity_strict ?_⟩
  · rw [(bySpecificity_perm _).mem_iff, List.mem_append, List.mem_singleton, h.mem_iff]
  · rw [List.map_append, List.map_singleton]
    refine List.nodup_append.mpr ⟨h.nodup_names hone, List.nodup_singleton _, ?_⟩
    intro n hn m hm
    obtain ⟨a, ha, rfl⟩ := List.mem_map.mp hn
    rw [List.mem_singleton.mp hm]
    exact hnew a ((h.mem_iff a).mp ha)

/-- A route takes the place of the one of its name. -/
theorem replace (h : Lists p rs) (hone : ∀ a b, p a → p b → a.name = b.name → a = b) (r : Route) :
    Lists (fun a => (p a ∧ a.name ≠ r.name) ∨ a = r)
      (bySpecificity (rs.filter (·.name != r.name) ++ [r])) :=
  (h.remove r.name).insert (fun a b ha hb => hone a b ha.1 hb.1) fun _ ha => ha.2

end Lists
end Gateway
