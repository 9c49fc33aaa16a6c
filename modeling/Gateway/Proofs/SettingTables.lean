import Gateway.Config.Loading
import Gateway.Proofs.FiniteMaps
import Gateway.Proofs.Prefixes

/-! # Tables of settings: merging gives each name once, at every depth -/
namespace Gateway
namespace Setting
open Text

/-- A table with each name once, and so are the tables under its names. What lists hold is not
looked at. -/
inductive Tidy : Setting → Prop
  | table {es : Assoc Setting} (hkeys : es.keys.Nodup) (hentries : ∀ e ∈ es, Tidy e.2) :
      Tidy (.table es)
  | other {x : Setting} (hx : ∀ es, x ≠ .table es) : Tidy x

variable {x current : Setting} {es : Assoc Setting} {k : String}

theorem Tidy.absent : Tidy .absent := .other fun _ h => nomatch h

theorem Tidy.empty : Tidy (.table []) := .table List.nodup_nil (List.forall_mem_nil _)

theorem Tidy.entriesOr (h : x.Tidy) : Tidy (.table (x.entriesOr [])) := by
  cases x with
  | table es => exact h
  | absent | flag | int | real | text | list => exact .empty

theorem Tidy.keys (h : Tidy (.table es)) : es.keys.Nodup := by
  cases h with
  | table hkeys => exact hkeys
  | other hx => exact absurd rfl (hx es)

theorem Tidy.of_get? (h : Tidy (.table es)) (k : String) : ∀ y ∈ Assoc.get? k es, y.Tidy := by
  cases h with
  | table _ hentries => exact fun y hy => hentries _ (Assoc.mem_of_get? hy)
  | other hx => exact absurd rfl (hx es)

theorem Tidy.getD (h : Tidy (.table es)) (k : String) : ((Assoc.get? k es).getD .absent).Tidy := by
  cases hk : Assoc.get? k es with
  | none => exact .absent
  | some y => exact h.of_get? k y hk

theorem Tidy.set (h : Tidy (.table es)) (k : String) (hx : x.Tidy) :
    Tidy (.table (Assoc.set k x es)) := by
  cases h with
  | table hkeys hentries =>
    refine .table (Assoc.nodup_keys_set hkeys k x) fun e he => ?_
    rcases Assoc.mem_set he with he | ⟨-, he⟩
    · exact hentries e he
    · exact he ▸ hx
  | other hx => exact absurd rfl (hx es)

mutual
theorem Tidy.merge {current : Setting} (h : current.Tidy) : (x : Setting) → (merge current x).Tidy
  | .table es => h.entriesOr.mergeEntries es
  | .absent | .flag _ | .int _ | .real _ | .text _ | .list _ => .other fun _ he => nomatch he

theorem Tidy.mergeEntries {es : Assoc Setting} (h : Tidy (.table es)) :
    (entries : List (String × Setting)) → Tidy (.table (mergeEntries es entries))
  | [] => h
  | (k, x) :: entries => (h.set k ((h.getD k).merge x)).mergeEntries entries
end

theorem Tidy.mergeAt (h : current.Tidy) (x : Setting) (ks : List String) :
    (mergeAt x ks current).Tidy := by
  induction ks generalizing current with
  | nil => exact h.merge x
  | cons k ks ih => exact h.entriesOr.set k (ih (h.entriesOr.getD k))

theorem pathOf_ne_nil (s : String) : pathOf s ≠ [] := by
  rw [pathOf]
  split
  · exact fun h => splitChars_ne_nil '.' s.toList (List.map_eq_nil_iff.mp h)
  · exact List.cons_ne_nil _ _

/-- Settings laid over a tidy table make a tidy table. -/
theorem exists_overlay (h : Tidy (.table es)) (entries : List (String × Setting)) :
    ∃ es', overlay entries (.table es) = .table es' ∧ Tidy (.table es') := by
  induction entries generalizing es with
  | nil => exact ⟨es, rfl, h⟩
  | cons e entries ih =>
    obtain ⟨k, ks, hks⟩ := List.exists_cons_of_ne_nil (pathOf_ne_nil e.1)
    have hnext : mergeAt e.2 (pathOf e.1) (.table es) =
        .table (Assoc.set k (mergeAt e.2 ks ((Assoc.get? k es).getD .absent)) es) := by
      rw [hks]
      rfl
    have htidy := h.mergeAt e.2 (pathOf e.1)
    rw [hnext] at htidy
    obtain ⟨es', hes', htidy'⟩ := ih htidy
    refine ⟨es', ?_, htidy'⟩
    rw [← hes', ← hnext]
    rfl

theorem overlay_append (entries entries' : List (String × Setting)) (current : Setting) :
    overlay (entries ++ entries') current = overlay entries' (overlay entries current) :=
  List.foldl_append

theorem merge_of_ne_table (hx : ∀ es, x ≠ .table es) (current : Setting) :
    merge current x = x := by
  rw [Setting.merge]
  exact hx

end Setting
end Gateway
