import Gateway.Proofs.FiniteMaps
import Gateway.Trie
import Mathlib.Data.List.Infix

/-! # What a trie holds: a finite map on lists of segments -/
namespace Gateway.Trie
variable {α : Type}

@[simp] theorem getAt_nil (t : Trie α) : getAt [] t = t.value := rfl

theorem getAt_cons (s : String) (ss : List String) (t : Trie α) :
    getAt (s :: ss) t = (Assoc.get? s t.children).bind (getAt ss) := rfl

@[simp] theorem getAt_empty (ss : List String) : getAt ss (empty : Trie α) = none := by
  cases ss <;> rfl

/-- A missing child and an empty one hold the same. -/
theorem getAt_getD (ss : List String) (c : Option (Trie α)) :
    getAt ss (c.getD empty) = c.bind (getAt ss) := by
  cases c with
  | none => simp
  | some t => rfl

theorem updateAt_nil (f : Option α → Option α) (t : Trie α) :
    updateAt f [] t = node (f t.value) t.children := by
  cases t
  rfl

theorem updateAt_cons (f : Option α → Option α) (s : String) (ss : List String) (t : Trie α) :
    updateAt f (s :: ss) t =
      node t.value
        (Assoc.set s (updateAt f ss ((Assoc.get? s t.children).getD empty)) t.children) := by
  cases t
  rfl

/-- An update changes what is held at its own segments and nothing else. -/
theorem getAt_updateAt (f : Option α → Option α) (ss ts : List String) (t : Trie α) :
    getAt ss (updateAt f ts t) = if ss = ts then f (getAt ts t) else getAt ss t := by
  induction ts generalizing ss t with
  | nil => cases ss <;> simp [updateAt_nil, getAt_cons, value, children]
  | cons u ts ih =>
    rw [updateAt_cons]
    cases ss with
    | nil => simp [value]
    | cons s ss =>
      rw [getAt_cons, getAt_cons, getAt_cons]
      change (Assoc.get? s (Assoc.set u _ t.children)).bind (getAt ss) = _
      rw [Assoc.get?_set]
      by_cases hs : s = u
      · subst hs
        simp [ih, getAt_getD]
      · simp [hs]

theorem along_cons (s : String) (ss : List String) (t : Trie α) :
    along (s :: ss) t =
      t.value.toList ++ ((Assoc.get? s t.children).map (along ss)).getD [] := by
  rw [along]
  cases Assoc.get? s t.children <;> rfl

private theorem root_value (t : Trie α) :
    t.value.toList = [([] : List String)].filterMap (getAt · t) := by
  cases h : t.value <;> simp [h]

/-- On the way down a path lie the values held at the beginnings of the path. -/
theorem along_eq (ss : List String) (t : Trie α) :
    along ss t = ss.inits.filterMap (getAt · t) := by
  induction ss generalizing t with
  | nil => exact root_value t
  | cons s ss ih =>
    have hrest : ((Assoc.get? s t.children).map (along ss)).getD [] =
        (ss.inits.map (s :: ·)).filterMap (getAt · t) := by
      rw [List.filterMap_map]
      cases h : Assoc.get? s t.children with
      | none => simp [getAt_cons, h, Function.comp_def]
      | some c => simp [getAt_cons, h, ih, Function.comp_def]
    rw [along_cons, hrest, root_value, ← List.filterMap_append]
    rfl

theorem covering_eq (path : String) (t : Trie α) :
    covering path t = (segments path).inits.reverse.filterMap (getAt · t) := by
  rw [covering, along_eq, List.filterMap_reverse]

end Gateway.Trie
