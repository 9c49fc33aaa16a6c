import Gateway.Forwarding
import Mathlib.Data.List.Basic
import Mathlib.Tactic.SplitIfs

/-! # Header fields: what is read of a field after fields were removed and set -/
namespace Gateway
open Text

/-- The values of a field that is set to a text, or not set. -/
def told (text : Option String) : List Bytes := ((text.map utf8).filter Headers.isLegal).toList

namespace Headers

@[simp] theorem values_insert_self (n : String) (v : Bytes) (h : Headers) :
    (h.insert n v).values n = [v] := by
  simp [values, insert, remove, List.filter_append]

theorem values_insert_of_ne {n m : String} (hne : m ≠ n) (v : Bytes) (h : Headers) :
    (h.insert n v).values m = h.values m := by
  have hnm : (n == m) = false := beq_eq_false_iff_ne.mpr hne.symm
  have hkept : ∀ p ∈ h.fields.filter (·.1 == m), (p.1 != n) = true := by
    intro p hp
    rw [bne_iff_ne, eq_of_beq (List.mem_filter.mp hp).2]
    exact hne
  simp only [values, insert, remove, List.filter_append, List.filter_cons, hnm, List.filter_nil,
    List.append_nil, Bool.false_eq_true, if_false]
  rw [List.filter_comm, List.filter_eq_self.mpr hkept]

theorem values_set_of_ne {n m : String} (hne : m ≠ n) (text : String) (h : Headers) :
    (h.set n text).values m = h.values m := by
  rw [set]
  split_ifs
  · exact values_insert_of_ne hne _ h
  · rfl

/-- The two headers have the same fields, in the same order, when those of some names are left
out. -/
def AgreeBeyond (names : List String) (g h : Headers) : Prop :=
  g.fields.filter (·.1 ∉ names) = h.fields.filter (·.1 ∉ names)

theorem agreeBeyond_insert {names : List String} {n : String} (hn : n ∈ names) (v : Bytes)
    (h : Headers) : AgreeBeyond names h (h.insert n v) := by
  have hkept : (h.fields.filter (·.1 != n)).filter (·.1 ∉ names) =
      h.fields.filter (·.1 ∉ names) := by
    rw [List.filter_comm, List.filter_eq_self]
    intro p hp
    rw [bne_iff_ne]
    rintro rfl
    exact of_decide_eq_true (List.mem_filter.mp hp).2 hn
  rw [AgreeBeyond, insert, remove, List.filter_append, hkept]
  simp [hn]

namespace AgreeBeyond
variable {names others : List String} {g h : Headers}

theorem mono (hgh : AgreeBeyond names g h) (hsub : names ⊆ others) : AgreeBeyond others g h := by
  have hfilter : ∀ k : Headers, (k.fields.filter (·.1 ∉ names)).filter (·.1 ∉ others) =
      k.fields.filter (·.1 ∉ others) := by
    intro k
    rw [List.filter_filter]
    refine List.filter_congr fun p _ => ?_
    by_cases hp : p.1 ∈ others
    · simp [hp]
    · have hn : p.1 ∉ names := fun hn => hp (hsub hn)
      simp [hp, hn]
  rw [AgreeBeyond, ← hfilter g, hgh, hfilter h]

theorem values_eq (hgh : AgreeBeyond names g h) {n : String} (hn : n ∉ names) :
    g.values n = h.values n := by
  have hfilter : ∀ k : Headers, (k.fields.filter (·.1 ∉ names)).filter (·.1 == n) =
      k.fields.filter (·.1 == n) := by
    intro k
    rw [List.filter_filter]
    refine List.filter_congr fun p _ => ?_
    by_cases hp : p.1 = n
    · simp [hp, hn]
    · simp [hp]
  rw [values, values, ← hfilter g, hgh, hfilter h]

theorem readable?_eq (hgh : AgreeBeyond names g h) {n : String} (hn : n ∉ names) :
    g.readable? n = h.readable? n := by
  rw [readable?, readable?, first?, first?, hgh.values_eq hn]

end AgreeBeyond
end Headers

namespace Forwarding
open Headers

theorem fields_removeAll (names : List String) (h : Headers) :
    (removeAll names h).fields = h.fields.filter (·.1 ∉ names) := by
  induction names generalizing h with
  | nil => exact (List.filter_eq_self.mpr fun p _ => by simp).symm
  | cons n names ih =>
    rw [removeAll, List.foldl_cons, ← removeAll, ih, remove, List.filter_filter]
    refine List.filter_congr fun p _ => ?_
    by_cases hp : p.1 = n <;> simp [hp]

theorem values_removeAll {names : List String} {n : String} (hn : n ∈ names) (h : Headers) :
    (removeAll names h).values n = [] := by
  have hnone : (removeAll names h).fields.filter (·.1 == n) = [] := by
    rw [fields_removeAll, List.filter_filter, List.filter_eq_nil_iff]
    intro p _
    by_cases hp : p.1 = n
    · simp [hp, hn]
    · simp [hp]
  rw [values, hnone, List.map_nil]

theorem values_removeAll_of_not_mem {names : List String} {n : String} (hn : n ∉ names)
    (h : Headers) : (removeAll names h).values n = h.values n := by
  have hagree : AgreeBeyond names (removeAll names h) h := by
    rw [AgreeBeyond, fields_removeAll, List.filter_filter]
    simp
  exact hagree.values_eq hn

/-- Removing fields from headers that agree beyond these leaves the same headers, also when other
fields were removed before. -/
theorem removeAll_removeAll_eq {names : List String} {g h : Headers}
    (hgh : AgreeBeyond names g h) (others : List String) :
    removeAll names (removeAll others g) = removeAll names (removeAll others h) := by
  have hfields : ∀ k : Headers, removeAll names (removeAll others k) =
      ⟨(k.fields.filter (·.1 ∉ names)).filter (·.1 ∉ others)⟩ := by
    intro k
    rw [List.filter_comm, ← fields_removeAll others, ← fields_removeAll names]
  rw [hfields, hfields, hgh]

theorem values_setIfAny_of_ne {n m : String} (hne : m ≠ n) (text : Option String) (h : Headers) :
    (setIfAny n text h).values m = h.values m := by
  cases text with
  | none => rfl
  | some text => exact values_set_of_ne hne text h

/-- A field that was not there is there afterwards with the text's one value, if it has one. -/
theorem values_setIfAny_self {n : String} {h : Headers} (hn : h.values n = [])
    (text : Option String) : (setIfAny n text h).values n = told text := by
  cases text with
  | none => exact hn
  | some text =>
    rw [setIfAny, Headers.set, told, Option.map_some, Option.filter_some]
    split_ifs with hlegal
    · rw [values_insert_self, Option.toList_some]
    · rw [hn, Option.toList_none]

theorem agreeBeyond_setIfAny {names : List String} {n : String} (hn : n ∈ names)
    (text : Option String) (h : Headers) : AgreeBeyond names h (setIfAny n text h) := by
  cases text with
  | none => rfl
  | some text =>
    rw [setIfAny, Headers.set]
    split_ifs
    · exact agreeBeyond_insert hn _ h
    · rfl

/-- Sets fields one after the other, each to its text if it has one. -/
def setAll (fields : List (String × Option String)) (h : Headers) : Headers :=
  fields.foldl (fun h p => setIfAny p.1 p.2 h) h

theorem values_setAll_of_not_mem {fields : List (String × Option String)} {n : String}
    (hn : n ∉ fields.map Prod.fst) (h : Headers) : (setAll fields h).values n = h.values n := by
  induction fields generalizing h with
  | nil => rfl
  | cons p fields ih =>
    rw [List.map_cons, List.mem_cons, not_or] at hn
    rw [setAll, List.foldl_cons, ← setAll, ih hn.2, values_setIfAny_of_ne hn.1]

/-- Fields of different names that were not there have the values of their texts afterwards. -/
theorem values_setAll {fields : List (String × Option String)}
    (hnodup : (fields.map Prod.fst).Nodup) {h : Headers}
    (hnone : ∀ p ∈ fields, h.values p.1 = []) :
    ∀ p ∈ fields, (setAll fields h).values p.1 = told p.2 := by
  induction fields generalizing h with
  | nil => exact fun p hp => nomatch hp
  | cons q fields ih =>
    obtain ⟨hq, hnodup⟩ := List.nodup_cons.mp hnodup
    obtain ⟨hqnone, hnone⟩ := List.forall_mem_cons.mp hnone
    rw [setAll, List.foldl_cons, ← setAll]
    refine List.forall_mem_cons.mpr ⟨?_, ih hnodup fun p hp => ?_⟩
    · rw [values_setAll_of_not_mem hq, values_setIfAny_self hqnone]
    · have hne : p.1 ≠ q.1 := fun he => hq (he ▸ List.mem_map_of_mem hp)
      rw [values_setIfAny_of_ne hne, hnone p hp]

/-- Setting fields leaves all others as they are. -/
theorem agreeBeyond_setAll {names : List String} {fields : List (String × Option String)}
    (hsub : fields.map Prod.fst ⊆ names) (h : Headers) :
    AgreeBeyond names h (setAll fields h) := by
  induction fields generalizing h with
  | nil => rfl
  | cons p fields ih =>
    obtain ⟨hp, hsub⟩ := List.cons_subset.mp hsub
    rw [setAll, List.foldl_cons, ← setAll]
    exact (agreeBeyond_setIfAny hp p.2 h).trans (ih hsub _)

/-- The fields that applying forwarding may set. -/
def forwardingNames : List String :=
  ["x-forwarded-host", "x-real-ip", "x-forwarded-proto", "x-forwarded-for"]

theorem values_applyForwarding_of_not_mem {n : String} (hn : n ∉ forwardingNames) (h : Headers)
    (peer : Option Socket) (tls : Bool) : (applyForwarding h peer tls).values n = h.values n := by
  simp only [forwardingNames, List.mem_cons, List.not_mem_nil, or_false, not_or] at hn
  obtain ⟨hhost, hip, hproto, hfor⟩ := hn
  have htold : ∀ p : String, ((setIfAny "x-real-ip" (clientIp h peer)
      (setIfAny "x-forwarded-host" (h.readable? "host") h)).set "x-forwarded-proto" p).values n =
      h.values n := by
    intro p
    rw [values_set_of_ne hproto, values_setIfAny_of_ne hip, values_setIfAny_of_ne hhost]
  cases peer with
  | none => exact htold _
  | some peer => exact (values_set_of_ne hfor _ _).trans (htold _)

end Forwarding
end Gateway
