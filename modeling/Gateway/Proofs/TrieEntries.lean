import Gateway.Proofs.TrieContents

/-! # Entries of a trie: all the values that are stored in it, node by node -/
namespace Gateway.Trie
variable {α : Type}

mutual
/-- The values of all nodes, each with the segments that lead to its node. -/
def entries : Trie α → List (List String × α)
  | node v cs => (v.map fun a => ([], a)).toList ++ childEntries cs

def childEntries : List (String × Trie α) → List (List String × α)
  | [] => []
  | (s, t) :: cs => t.entries.map (fun e => (s :: e.1, e.2)) ++ childEntries cs
end

/-- No node has two children of one name. -/
inductive WellNamed : Trie α → Prop
  | node {v : Option α} {cs : List (String × Trie α)} (nodup : (Assoc.keys cs).Nodup)
      (below : ∀ e ∈ cs, WellNamed e.2) : WellNamed (node v cs)

variable {t : Trie α} {cs : List (String × Trie α)}

theorem WellNamed.nodup_keys (h : t.WellNamed) : (Assoc.keys t.children).Nodup := by
  cases h with
  | node nodup _ => exact nodup

theorem WellNamed.of_mem (h : t.WellNamed) {e : String × Trie α} (he : e ∈ t.children) :
    e.2.WellNamed := by
  cases h with
  | node _ below => exact below e he

theorem wellNamed_empty : (empty : Trie α).WellNamed :=
  .node List.nodup_nil fun _ he => absurd he List.not_mem_nil

theorem WellNamed.updateAt (h : t.WellNamed) (f : Option α → Option α) (ss : List String) :
    (t.updateAt f ss).WellNamed := by
  induction ss generalizing t with
  | nil =>
    rw [updateAt_nil]
    exact .node h.nodup_keys fun e he => h.of_mem he
  | cons s ss ih =>
    rw [updateAt_cons]
    have hchild : ((Assoc.get? s t.children).getD empty).WellNamed := by
      cases hs : Assoc.get? s t.children with
      | none => exact wellNamed_empty
      | some c => exact h.of_mem (Assoc.mem_of_get? hs)
    refine .node (Assoc.nodup_keys_set h.nodup_keys _ _) fun e he => ?_
    rcases Assoc.mem_set he with he | ⟨-, he⟩
    · exact h.of_mem he
    · rw [he]
      exact ih hchild

theorem mem_childEntries_iff (cs : List (String × Trie α)) (ss : List String) (a : α) :
    (ss, a) ∈ childEntries cs ↔ ∃ e ∈ cs, ∃ ts, ss = e.1 :: ts ∧ (ts, a) ∈ e.2.entries := by
  induction cs with
  | nil => simp [childEntries]
  | cons e cs ih =>
    obtain ⟨s, t⟩ := e
    rw [childEntries, List.mem_append, ih, List.exists_mem_cons_iff]
    refine or_congr ?_ Iff.rfl
    simp only [List.mem_map, Prod.exists, Prod.mk.injEq]
    constructor
    · rintro ⟨ts, b, hmem, rfl, rfl⟩
      exact ⟨ts, rfl, hmem⟩
    · rintro ⟨ts, rfl, hmem⟩
      exact ⟨ts, a, hmem, rfl, rfl⟩

/-- With each name once, the entries are what a search finds. -/
theorem WellNamed.mem_entries_iff (h : t.WellNamed) (ss : List String) (a : α) :
    (ss, a) ∈ t.entries ↔ getAt ss t = some a := by
  induction h generalizing ss with
  | @node v cs nodup below ih =>
    rw [entries, List.mem_append, mem_childEntries_iff]
    cases ss with
    | nil => cases v <;> simp [value, eq_comm]
    | cons s ss =>
      have hroot : (s :: ss, a) ∉ (v.map fun a => (([] : List String), a)).toList := by
        cases v <;> simp
      rw [getAt_cons, or_iff_right hroot]
      show _ ↔ (Assoc.get? s cs).bind (getAt ss) = some a
      constructor
      · rintro ⟨e, he, ts, hss, hmem⟩
        obtain ⟨rfl, rfl⟩ := List.cons.inj hss
        rw [Assoc.get?_of_mem nodup he]
        exact (ih e he ss).mp hmem
      · intro hget
        obtain ⟨c, hc, hget⟩ := Option.bind_eq_some_iff.mp hget
        have hmem := Assoc.mem_of_get? hc
        exact ⟨(s, c), hmem, ss, rfl, (ih _ hmem ss).mpr hget⟩

theorem nodup_childEntries (hcs : (Assoc.keys cs).Nodup)
    (h : ∀ e ∈ cs, (e.2.entries.map Prod.fst).Nodup) : ((childEntries cs).map Prod.fst).Nodup := by
  induction cs with
  | nil => exact List.nodup_nil
  | cons e cs ih =>
    obtain ⟨s, t⟩ := e
    obtain ⟨hs, hcs⟩ := List.nodup_cons.mp hcs
    obtain ⟨ht, hrest⟩ := List.forall_mem_cons.mp h
    have hmap : (t.entries.map fun e => (s :: e.1, e.2)).map Prod.fst =
        (t.entries.map Prod.fst).map (s :: ·) := by
      simp only [List.map_map]
      rfl
    rw [childEntries, List.map_append, hmap]
    refine List.nodup_append.mpr ⟨ht.map fun _ _ he => (List.cons.inj he).2, ih hcs hrest, ?_⟩
    rintro ss hss us hus rfl
    obtain ⟨ts, -, rfl⟩ := List.mem_map.mp hss
    obtain ⟨⟨us, a⟩, hmem, hhead⟩ := List.mem_map.mp hus
    obtain ⟨e, he, vs, rfl, -⟩ := (mem_childEntries_iff cs us a).mp hmem
    exact hs ((List.cons.inj hhead).1 ▸ Assoc.mem_keys_of_mem he)

/-- No two entries stand at the same segments. -/
theorem WellNamed.nodup_entries (h : t.WellNamed) : (t.entries.map Prod.fst).Nodup := by
  induction h with
  | @node v cs nodup below ih =>
    have hchildren := nodup_childEntries nodup ih
    rw [entries]
    cases v with
    | none => exact hchildren
    | some a =>
      refine List.nodup_cons.mpr ⟨fun hroot => ?_, hchildren⟩
      obtain ⟨⟨ss, b⟩, hmem, hss⟩ := List.mem_map.mp hroot
      obtain ⟨e, -, ts, rfl, -⟩ := (mem_childEntries_iff cs ss b).mp hmem
      cases hss

end Gateway.Trie
