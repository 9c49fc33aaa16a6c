import Gateway.Assoc
import Mathlib.Data.List.Nodup

/-! # Finite maps: what their operations do to values and names -/
namespace Gateway.Assoc
variable {α β : Type}

@[simp] theorem get?_nil (k : String) : get? k ([] : Assoc α) = none := rfl

theorem get?_cons (k j : String) (a : α) (m : Assoc α) :
    get? k ((j, a) :: m) = if j = k then some a else get? k m := rfl

theorem get?_set (j k : String) (a : α) (m : Assoc α) :
    get? j (set k a m) = if j = k then some a else get? j m := by
  by_cases h : j = k
  · subst h
    simp [get?_set_self]
  · rw [get?_set_of_ne a m (Ne.symm h), if_neg h]

@[simp] theorem keys_nil : keys ([] : Assoc α) = [] := rfl

@[simp] theorem keys_cons (p : String × α) (m : Assoc α) : keys (p :: m) = p.1 :: keys m := rfl

theorem keys_set (k : String) (a : α) (m : Assoc α) :
    keys (set k a m) = if k ∈ keys m then keys m else keys m ++ [k] := by
  induction m with
  | nil => simp [set]
  | cons p m ih =>
    by_cases h : p.1 = k
    · simp [set, h]
    · have hk : k ≠ p.1 := Ne.symm h
      by_cases hm : k ∈ keys m <;> simp [set, h, hk, ih, hm]

theorem nodup_keys_set {m : Assoc α} (h : (keys m).Nodup) (k : String) (a : α) :
    (keys (set k a m)).Nodup := by
  rw [keys_set]
  split_ifs with hk
  · exact h
  · exact List.nodup_append.mpr ⟨h, List.nodup_singleton k, by
      intro j hj i hi
      rw [List.mem_singleton.mp hi]
      rintro rfl
      exact hk hj⟩

theorem mem_set {k : String} {a : α} {m : Assoc α} {p : String × α} (h : p ∈ set k a m) :
    p ∈ m ∨ p.1 = k ∧ p.2 = a := by
  induction m with
  | nil =>
    rw [List.mem_singleton.mp h]
    exact Or.inr ⟨rfl, rfl⟩
  | cons q m ih =>
    by_cases hq : q.1 = k
    · rw [set, if_pos hq] at h
      rcases List.mem_cons.mp h with rfl | h
      · exact Or.inr ⟨hq, rfl⟩
      · exact Or.inl (List.mem_cons_of_mem q h)
    · rw [set, if_neg hq] at h
      rcases List.mem_cons.mp h with rfl | h
      · exact Or.inl List.mem_cons_self
      · exact (ih h).imp (List.mem_cons_of_mem q) id

theorem mem_of_get? {k : String} {a : α} {m : Assoc α} (h : get? k m = some a) : (k, a) ∈ m := by
  induction m with
  | nil => simp at h
  | cons p m ih =>
    obtain ⟨j, b⟩ := p
    rw [get?_cons] at h
    split_ifs at h with hj
    · cases h
      subst hj
      exact List.mem_cons_self
    · exact List.mem_cons_of_mem _ (ih h)

theorem mem_keys_of_mem {k : String} {a : α} {m : Assoc α} (h : (k, a) ∈ m) : k ∈ keys m :=
  List.mem_map_of_mem (f := Prod.fst) h

theorem get?_of_mem {k : String} {a : α} {m : Assoc α} (hm : (keys m).Nodup) (h : (k, a) ∈ m) :
    get? k m = some a := by
  induction m with
  | nil => simp at h
  | cons p m ih =>
    obtain ⟨hp, hm⟩ := List.nodup_cons.mp hm
    rcases List.mem_cons.mp h with rfl | h
    · simp [get?_cons]
    · have hne : p.1 ≠ k := by
        rintro rfl
        exact hp (mem_keys_of_mem h)
      rw [get?_cons, if_neg hne]
      exact ih hm h

theorem get?_eq_none {k : String} {m : Assoc α} (h : k ∉ keys m) : get? k m = none := by
  cases hg : get? k m with
  | none => rfl
  | some a => exact absurd (mem_keys_of_mem (mem_of_get? hg)) h

theorem isSome_get?_iff {k : String} {m : Assoc α} : (get? k m).isSome ↔ k ∈ keys m := by
  induction m with
  | nil => simp
  | cons p m ih =>
    rw [get?_cons, keys_cons, List.mem_cons, ← ih]
    by_cases h : p.1 = k
    · simp [h]
    · simp [h, Ne.symm h]

theorem get?_map (f : α → β) (k : String) (m : Assoc α) :
    get? k (m.map fun p => (p.1, f p.2)) = (get? k m).map f := by
  induction m with
  | nil => rfl
  | cons p m ih =>
    rw [List.map_cons, get?_cons, get?_cons, ih]
    split_ifs <;> rfl

@[simp] theorem keys_map (f : α → β) (m : Assoc α) :
    keys (m.map fun p => (p.1, f p.2)) = keys m := by
  simp [keys]

theorem nodup_keys_filter {m : Assoc α} (h : (keys m).Nodup) (q : String × α → Bool) :
    (keys (m.filter q)).Nodup :=
  h.sublist ((List.filter_sublist (p := q)).map Prod.fst)

/-- With each name once, no second entry comes to light where a value is dropped. -/
theorem get?_filter {m : Assoc α} (hm : (keys m).Nodup) (q : α → Bool) (k : String) :
    get? k (m.filter fun p => q p.2) = (get? k m).filter q := by
  induction m with
  | nil => rfl
  | cons p m ih =>
    obtain ⟨hp, hm⟩ := List.nodup_cons.mp hm
    have ih := ih hm
    by_cases hq : q p.2 = true
    · rw [List.filter_cons, if_pos hq, get?_cons, get?_cons, ih]
      split_ifs
      · simp [Option.filter, hq]
      · rfl
    · rw [List.filter_cons, if_neg hq, get?_cons, ih]
      split_ifs with hk
      · subst hk
        simp [get?_eq_none hp, Option.filter, hq]
      · rfl

end Gateway.Assoc
