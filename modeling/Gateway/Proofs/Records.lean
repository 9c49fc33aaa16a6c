import Gateway.Record
import Mathlib.Data.List.Nodup
import Mathlib.Data.List.Pairwise

/-! # Records by name: which values the slots of a record have, and under which names -/
namespace Gateway.Record

/-! ## What is given for a slot -/

theorem given_nil {ν : Type} (s : Slot) : given ([] : List (String × ν)) s = [] := rfl

theorem given_append {ν : Type} (fields fields' : List (String × ν)) (s : Slot) :
    given (fields ++ fields') s = given fields s ++ given fields' s := by
  simp only [given, List.filter_append, List.map_append]

theorem given_cons {ν : Type} (f : String × ν) (fields : List (String × ν)) (s : Slot) :
    given (f :: fields) s =
      if s.admits f.1 then f.2 :: given fields s else given fields s := by
  rw [given, List.filter_cons]
  split <;> rfl

/-- A field that is there if there is a value for it. -/
theorem given_toList {ν α : Type} (name : String) (f : α → ν) (o : Option α) (s : Slot) :
    given (o.map fun a => (name, f a)).toList s =
      if s.admits name then (o.map f).toList else [] := by
  cases o with
  | none => exact (ite_self _).symm
  | some a => exact given_cons (name, f a) [] s

/-- A record read by name depends only on what is given for its slots. -/
theorem named_congr {ν : Type} {fields fields' : List (String × ν)} {slots : List Slot}
    (h : ∀ s ∈ slots, given fields s = given fields' s) :
    named fields slots = named fields' slots := by
  induction slots with
  | nil => rfl
  | cons s ss ih =>
    obtain ⟨hs, hss⟩ := List.forall_mem_cons.mp h
    rw [named, named, hs, ih hss]

/-- What a field has in a record read by name. -/
theorem value?_named {ν : Type} {fields : List (String × ν)} {slots : List Slot} {r : Opened ν}
    (h : named fields slots = some r) (name : String) :
    r.value? name =
      slots.findSome? fun s => if s.name == name then (given fields s).head? else none := by
  induction slots generalizing r with
  | nil => cases h; rfl
  | cons s ss ih =>
    simp only [named, Option.bind_eq_bind, Option.bind_eq_some_iff] at h
    obtain ⟨rest, hrest, h⟩ := h
    rw [List.findSome?_cons]
    split at h
    · next hgiven =>
      cases h
      rw [hgiven, List.head?_nil, ite_self, ih hrest]
    · next x hgiven =>
      cases h
      rw [hgiven, List.head?_cons, Opened.value?, List.find?_cons]
      cases hname : s.name == name with
      | true => rfl
      | false => exact ih hrest
    · cases h

/-- Slots with names of their own have the values given for them. -/
theorem value?_of_mem {ν : Type} {fields : List (String × ν)} {slots : List Slot} {r : Opened ν}
    (hslots : (slots.map Slot.name).Nodup) (h : named fields slots = some r) {s : Slot}
    (hs : s ∈ slots) : r.value? s.name = (given fields s).head? := by
  rw [value?_named h]
  clear h
  induction slots with
  | nil => cases hs
  | cons t ts ih =>
    obtain ⟨ht, hts⟩ := List.nodup_cons.mp hslots
    rw [List.findSome?_cons]
    rcases List.mem_cons.mp hs with rfl | hs
    · have hothers : (ts.findSome? fun t => if t.name == s.name then (given fields t).head?
          else none) = none := by
        rw [List.findSome?_eq_none_iff]
        intro t hmem
        have hne : t.name ≠ s.name := fun heq => ht (heq ▸ List.mem_map_of_mem hmem)
        rw [if_neg (by simpa using hne)]
      rw [if_pos (beq_self_eq_true _), hothers]
      cases (given fields s).head? <;> rfl
    · have hne : t.name ≠ s.name := fun heq => ht (heq ▸ List.mem_map_of_mem hs)
      rw [if_neg (by simpa using hne)]
      exact ih hts hs

/-- Fields that give each slot at most one value can be read by name, with these values. -/
theorem exists_named {ν : Type} {fields : List (String × ν)} {slots : List Slot}
    {values : List (Option ν)} (hslots : (slots.map Slot.name).Nodup)
    (h : slots.map (given fields) = values.map Option.toList) :
    ∃ r, named fields slots = some r ∧ slots.map (fun s => r.value? s.name) = values := by
  have hexists : ∃ r, named fields slots = some r := by
    clear hslots
    induction slots generalizing values with
    | nil => exact ⟨[], rfl⟩
    | cons s ss ih =>
      obtain _ | ⟨v, values⟩ := values
      · cases h
      obtain ⟨hv, hvalues⟩ := List.cons.inj h
      obtain ⟨r, hr⟩ := ih hvalues
      rw [named, hr, hv]
      cases v with
      | none => exact ⟨r, rfl⟩
      | some x => exact ⟨(s.name, x) :: r, rfl⟩
  obtain ⟨r, hr⟩ := hexists
  refine ⟨r, hr, ?_⟩
  have hhead := congrArg (List.map List.head?) h
  rw [List.map_map, List.map_map] at hhead
  calc slots.map (fun s => r.value? s.name)
      = slots.map (List.head? ∘ given fields) :=
        List.map_congr_left fun s hs => value?_of_mem hslots hr hs
    _ = values.map (List.head? ∘ Option.toList) := hhead
    _ = values := by
        refine List.map_id'' (fun v => ?_) values
        cases v <;> rfl

/-- Fields that give each slot at most one value make a record with these values. -/
theorem exists_collect? {fields : List (String × Json)} {slots : List Slot}
    {values : List (Option Json)} (hslots : (slots.map Slot.name).Nodup)
    (h : slots.map (given fields) = values.map Option.toList) :
    ∃ r, collect? slots (.record fields) = some r ∧
      slots.map (fun s => r.value? s.name) = values :=
  exists_named hslots h

/-! ## Decoding the values -/

section Decoding
variable {α : Type} {r : Opened Json} {name : String}

theorem optional_of_value? {o : Option α} {g : α → Json} {f : Json → Option α}
    (h : r.value? name = o.map g) (hf : ∀ a ∈ o, f (g a) = some a)
    (hpresent : ∀ a, (g a).isNull = false) : r.optional name f = some o := by
  rw [Opened.optional, h]
  cases o with
  | none => rfl
  | some a => simp [Source.isAbsent, hpresent a, hf a rfl]

theorem optional_of_text {o : Option String} (h : r.value? name = o.map Json.text) :
    r.optional name Source.text? = some o :=
  optional_of_value? h (fun _ _ => rfl) fun _ => rfl

theorem required_of_value? {f : Json → Option α} {x : Json} (h : r.value? name = some x) :
    r.required name f = f x := by
  rw [Opened.required, h, Option.bind_some]

theorem withDefault_of_value? {f : Json → Option α} {x : Json} (a : α)
    (h : r.value? name = some x) : r.withDefault name a f = f x := by
  rw [Opened.withDefault, h]

theorem listOf_map {f : Json → Option α} {g : α → Json} {as : List α}
    (h : ∀ a ∈ as, f (g a) = some a) : listOf f (.list (as.map g)) = some as := by
  show (as.map g).mapM f = some as
  induction as with
  | nil => rfl
  | cons a as ih =>
    obtain ⟨ha, has⟩ := List.forall_mem_cons.mp h
    rw [List.map_cons, List.mapM_cons, ha, ih has]
    rfl

theorem listOf_texts (xs : List String) : listOf Source.text? (Json.ofTexts xs) = some xs :=
  listOf_map fun _ _ => rfl

end Decoding

/-! ## Other names -/

/-- All the names that a slot goes by. -/
def Slot.names (s : Slot) : List String := s.name :: s.others

theorem Slot.admits_iff (s : Slot) (name : String) : s.admits name = true ↔ name ∈ s.names := by
  simp [admits, names]

/-- No two slots go by one name. -/
def Separate (slots : List Slot) : Prop := (slots.flatMap Slot.names).Nodup

instance (slots : List Slot) : Decidable (Separate slots) :=
  inferInstanceAs (Decidable (List.Nodup _))

theorem Separate.eq_of_admits {slots : List Slot} (h : Separate slots) {s t : Slot} (hs : s ∈ slots)
    (ht : t ∈ slots) {name : String} (hsname : s.admits name = true)
    (htname : t.admits name = true) : s = t := by
  by_contra hne
  have : Std.Symm (Function.onFun List.Disjoint Slot.names) := ⟨fun _ _ hd _ ht hs => hd hs ht⟩
  have hdisjoint := (List.nodup_flatMap.mp h).2.forall hs ht hne
  exact hdisjoint ((s.admits_iff name).mp hsname) ((t.admits_iff name).mp htname)

/-- The fields that have a slot, each under its slot's own name. -/
def ownNames {ν : Type} (slots : List Slot) (fields : List (String × ν)) : List (String × ν) :=
  fields.filterMap fun f => (slots.find? (·.admits f.1)).map fun s => (s.name, f.2)

theorem given_ownNames {ν : Type} {slots : List Slot} (h : Separate slots)
    (fields : List (String × ν)) {s : Slot} (hs : s ∈ slots) :
    given (ownNames slots fields) s = given fields s := by
  have hown : ∀ t : Slot, t.admits t.name = true :=
    fun t => (t.admits_iff _).mpr List.mem_cons_self
  induction fields with
  | nil => rfl
  | cons f fields ih =>
    rw [ownNames] at ih ⊢
    rw [List.filterMap_cons, given_cons]
    cases hslot : slots.find? (·.admits f.1) with
    | none =>
      have hnone := List.find?_eq_none.mp hslot s hs
      rw [if_neg hnone]
      exact ih
    | some t =>
      have ht : t ∈ slots := List.mem_of_find?_eq_some hslot
      have htname : t.admits f.1 = true := by simpa using List.find?_some hslot
      by_cases hsname : s.admits f.1 = true
      · obtain rfl := h.eq_of_admits hs ht hsname htname
        rw [if_pos hsname, Option.map_some]
        dsimp only
        rw [given_cons, if_pos (hown s), ih]
      · have hother : ¬s.admits t.name = true := fun hadmits =>
          hsname (h.eq_of_admits hs ht hadmits (hown t) ▸ htname)
        rw [if_neg hsname, Option.map_some]
        dsimp only
        rw [given_cons, if_neg hother, ih]

/-- Under which of its names a field stands makes no difference, nor do fields without a slot. -/
theorem collect?_ownNames {slots : List Slot} (h : Separate slots)
    (fields : List (String × Json)) :
    collect? slots (Json.record (ownNames slots fields)) = collect? slots (Json.record fields) :=
  named_congr fun _ hs => given_ownNames h fields hs

end Gateway.Record
