import Gateway.Proofs.Records
import Gateway.Proofs.SettingTables

/-! # Decoding tables: what is read depends on what stands under each name -/
namespace Gateway

theorem Assoc.filter_name {α : Type} {m : Assoc α} (hm : m.keys.Nodup) (k : String) :
    m.filter (·.1 == k) = ((get? k m).map fun a => (k, a)).toList := by
  induction m with
  | nil => rfl
  | cons p m ih =>
    obtain ⟨hp, hm⟩ := List.nodup_cons.mp hm
    rw [List.filter_cons, get?_cons, ih hm]
    by_cases hk : p.1 = k
    · subst hk
      simp [get?_eq_none hp]
    · simp [hk]

theorem Assoc.get?_filter_ne {α : Type} {j k : String} (h : k ≠ j) (m : Assoc α) :
    get? k (m.filter (·.1 != j)) = get? k m := by
  induction m with
  | nil => rfl
  | cons p m ih =>
    rw [List.filter_cons, get?_cons]
    by_cases hj : p.1 = j
    · rw [if_neg (by simpa using hj), ih, if_neg (hj ▸ h.symm)]
    · rw [if_pos (by simpa using hj), get?_cons, ih]

namespace Record
variable {ν : Type} [Source ν] {x : ν} {es : Assoc ν} {r : Opened Json} {names : List String}
  {name tag : String}

omit [Source ν] in
theorem exists_named_of_nodup (hes : es.keys.Nodup) (hnames : names.Nodup) :
    ∃ r, named es (slotsOf names) = some r ∧ ∀ n ∈ names, r.value? n = Assoc.get? n es := by
  have hgiven : ∀ n, given es ⟨n, []⟩ = (Assoc.get? n es).toList := by
    intro n
    simp only [given, Slot.admits, List.contains_nil, Bool.or_false]
    rw [Assoc.filter_name hes]
    cases Assoc.get? n es <;> rfl
  have hslots : (slotsOf names).map Slot.name = names := by
    simp [slotsOf, Function.comp_def]
  obtain ⟨r, hr, hvalues⟩ : ∃ r, named es (slotsOf names) = some r ∧
      (slotsOf names).map (fun s => r.value? s.name) = names.map fun n => Assoc.get? n es :=
    exists_named (hslots.symm ▸ hnames) (by simp [slotsOf, hgiven])
  exact ⟨r, hr, by simpa [slotsOf] using hvalues⟩

/-- A table is a record with what stands under each name. -/
theorem exists_collect?_of_nodup (hx : Source.fields? x = some es) (hes : es.keys.Nodup)
    (hnames : names.Nodup) :
    ∃ r, collect? (slotsOf names) x = some r ∧ ∀ n ∈ names, r.value? n = Assoc.get? n es := by
  rw [collect?, hx]
  exact exists_named_of_nodup hes hnames

omit [Source ν] in
theorem withDefault_eq {α : Type} (r : Opened ν) (name : String) (a : α) (f : ν → Option α) :
    r.withDefault name a f = (r.value? name).elim (some a) f := by
  rw [Opened.withDefault]
  cases r.value? name <;> rfl

/-- The fields beside a tag, taken plainly. -/
def untagged (tag : String) (es : Assoc ν) : Assoc Json :=
  (es.filter (·.1 != tag)).map fun e => (e.1, Source.plain e.2)

theorem tagged?_eq (hx : Source.fields? x = some es) (hes : es.keys.Nodup) (tag : String) :
    tagged? tag x = ((Assoc.get? tag es).bind Source.text?).map fun t =>
      ⟨t, .inl (untagged tag es)⟩ := by
  rw [tagged?, hx]
  simp only [Assoc.filter_name hes]
  cases Assoc.get? tag es with
  | none => rfl
  | some t =>
    show (do let t ← Source.text? t; return (⟨t, .inl (untagged tag es)⟩ : Tagged)) = _
    cases h : Source.text? t <;> simp [h]

theorem exists_collect?_untagged (hes : es.keys.Nodup) (hnames : names.Nodup)
    (htag : tag ∉ names) (t : String) :
    ∃ r, Tagged.collect? (slotsOf names) ⟨t, .inl (untagged tag es)⟩ = some r ∧
      ∀ n ∈ names, r.value? n = (Assoc.get? n es).map Source.plain := by
  have hkeys : (untagged tag es).keys.Nodup := by
    rw [untagged, Assoc.keys_map]
    exact Assoc.nodup_keys_filter hes _
  obtain ⟨r, hr, hvalues⟩ := exists_named_of_nodup hkeys hnames
  refine ⟨r, hr, fun n hn => ?_⟩
  have hne : n ≠ tag := by
    rintro rfl
    exact htag hn
  rw [hvalues n hn, untagged, Assoc.get?_map, Assoc.get?_filter_ne hne]

/-- A text among fields that are taken plainly. -/
def plainText? (es : Assoc ν) (name : String) : Option String :=
  (Assoc.get? name es).bind fun x => (Source.plain x).text?

/-- A text among fields that are taken plainly, or a default. -/
def plainTextOr? (es : Assoc ν) (name s : String) : Option String :=
  (Assoc.get? name es).elim (some s) fun x => (Source.plain x).text?

/-- The tag that tells the kind of a section. -/
def kind? (es : Assoc ν) : Option String := (Assoc.get? "type" es).bind Source.text?

theorem plainText?_set (es : Assoc ν) (name k : String) (y : ν) :
    plainText? (Assoc.set k y es) name =
      if name = k then (Source.plain y).text? else plainText? es name := by
  rw [plainText?, Assoc.get?_set]
  split_ifs <;> rfl

theorem plainTextOr?_set (es : Assoc ν) (name s k : String) (y : ν) :
    plainTextOr? (Assoc.set k y es) name s =
      if name = k then (Source.plain y).text? else plainTextOr? es name s := by
  rw [plainTextOr?, Assoc.get?_set]
  split_ifs <;> rfl

theorem kind?_set {kind : String} (h : kind? es = some kind) (hname : "type" ≠ name) (y : ν) :
    kind? (Assoc.set name y es) = some kind := by
  rw [kind?, Assoc.get?_set, if_neg hname]
  exact h

theorem required_text (h : r.value? name = (Assoc.get? name es).map Source.plain) :
    r.required name Json.text? = plainText? es name := by
  rw [Opened.required, h, Option.bind_map]
  rfl

theorem withDefault_text (h : r.value? name = (Assoc.get? name es).map Source.plain) (s : String) :
    r.withDefault name s Json.text? = plainTextOr? es name s := by
  rw [withDefault_eq, h, Option.elim_map]
  rfl

/-- A section of a kind is read by the names of that kind. -/
theorem exists_tagged {kind : String} (hx : Source.fields? x = some es) (hes : es.keys.Nodup)
    (hkind : kind? es = some kind) (hnames : names.Nodup) (htype : "type" ∉ names) :
    ∃ t r, tagged? "type" x = some t ∧ t.tag = kind ∧ t.collect? (slotsOf names) = some r ∧
      ∀ n ∈ names, r.value? n = (Assoc.get? n es).map Source.plain := by
  obtain ⟨r, hr, hvalues⟩ := exists_collect?_untagged hes hnames htype kind
  refine ⟨⟨kind, .inl (untagged "type" es)⟩, r, ?_, rfl, hr, hvalues⟩
  rw [kind?] at hkind
  rw [tagged?_eq hx hes, hkind, Option.map_some]

end Record
end Gateway
