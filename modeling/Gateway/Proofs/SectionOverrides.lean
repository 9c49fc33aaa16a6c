import Gateway.Proofs.ConfigSections

/-! # Values put into a section: what becomes of the configuration -/
namespace Gateway
open Record

namespace Setting
variable {β : Type} {D : Setting → Option β} {x : Setting} {k : String}

/-- Whether names lead through tables, as far as there is anything. -/
def isOpen : List String → Setting → Bool
  | [], _ => true
  | k :: ks, table es => (Assoc.get? k es).all (isOpen ks)
  | _ :: _, _ => false

theorem mergeAt_singleton (hx : ∀ es, x ≠ table es) (k : String) (current : Setting) :
    mergeAt x [k] current = table (Assoc.set k x (current.entriesOr [])) := by
  rw [mergeAt, mergeAt, merge_of_ne_table hx]

theorem mergeAt_cons_table (x : Setting) (k : String) (ks : List String) (es : Assoc Setting) :
    mergeAt x (k :: ks) (table es) =
      table (Assoc.set k (mergeAt x ks ((Assoc.get? k es).getD .absent)) es) := rfl

theorem isOpen_cons_table (k : String) (ks : List String) (es : Assoc Setting) :
    isOpen (k :: ks) (table es) = (Assoc.get? k es).all (isOpen ks) := rfl

theorem isOpen_singleton (k : String) (es : Assoc Setting) : isOpen [k] (table es) = true := by
  rw [isOpen]
  cases Assoc.get? k es <;> rfl

/-- A value under a name of a section that may be missing. -/
theorem decode_mergeAt_elim {sec : Option Setting} {d a : β} {g : β → Option β}
    (hx : ∀ es, x ≠ table es) (hsec : ∀ y ∈ sec, y.Tidy) (hbase : sec.elim (some d) D = some a)
    (hempty : D (table []) = some d)
    (hset : ∀ es b, (Assoc.keys es).Nodup → D (table es) = some b →
      D (table (Assoc.set k x es)) = g b) :
    D (mergeAt x [k] (sec.getD .absent)) = g (if sec.all (isOpen [k]) then a else d) := by
  rw [mergeAt_singleton hx]
  cases sec with
  | none =>
    cases hbase
    exact hset [] _ List.nodup_nil hempty
  | some y =>
    cases y with
    | table es =>
      rw [Option.all_some, if_pos (isOpen_singleton k es)]
      exact hset es a (hsec _ rfl).keys hbase
    | absent | flag | int | real | text | list => exact hset [] d List.nodup_nil hempty

/-- A value below a section that is needed. -/
theorem decode_mergeAt_bind {ks : List String} {sec : Option Setting} {a : β} {o : Option β}
    (hbase : sec.bind D = some a) (hempty : ∀ y, D (table [(k, y)]) = none)
    (hset : ∀ es, sec = some (table es) → D (table es) = some a →
      D (table (Assoc.set k (mergeAt x ks ((Assoc.get? k es).getD .absent)) es)) =
        if (Assoc.get? k es).all (isOpen ks) then o else none) :
    D (mergeAt x (k :: ks) (sec.getD .absent)) =
      if sec.all (isOpen (k :: ks)) then o else none := by
  cases sec with
  | none => cases hbase
  | some y =>
    cases y with
    | table es => exact hset es rfl hbase
    | absent | flag | int | real | text | list => exact hempty _

/-- A value under a name of a section that is needed. -/
theorem decode_mergeAt_bind_singleton {sec : Option Setting} {a : β} {o : Option β}
    (hx : ∀ es, x ≠ table es) (hsec : ∀ y ∈ sec, y.Tidy) (hbase : sec.bind D = some a)
    (hempty : ∀ y, D (table [(k, y)]) = none)
    (hset : ∀ es, (Assoc.keys es).Nodup → D (table es) = some a →
      D (table (Assoc.set k x es)) = o) :
    D (mergeAt x [k] (sec.getD .absent)) = if sec.all (isOpen [k]) then o else none := by
  refine decode_mergeAt_bind hbase hempty fun es hes hdecode => ?_
  have hopen : (Assoc.get? k es).all (isOpen []) = true := isOpen_singleton k es
  rw [if_pos hopen, mergeAt, merge_of_ne_table hx]
  exact hset es (hsec _ hes).keys hdecode

end Setting

namespace Config
variable {es : Assoc Setting} {c : Config} {x : Setting} {k : String}

theorem decode?_mergeAt_repository {o : Option RepositoryConfig}
    (hes : Setting.Tidy (.table es)) (hreads : Reads es c) (hx : ∀ es, x ≠ .table es)
    (hk : "type" ≠ k)
    (hset : ∀ sub : Assoc Setting, sub.keys.Nodup →
      RepositoryConfig.decode? (Setting.table sub) = some c.repository →
        RepositoryConfig.decode? (Setting.table (Assoc.set k x sub)) = o) :
    decode? (Setting.mergeAt x ["repository", k] (.table es)) =
      if Setting.isOpen ["repository", k] (.table es)
      then o.map fun r => { c with repository := r } else none := by
  have hempty : ∀ y, RepositoryConfig.decode? (Setting.table [(k, y)]) = none := fun y =>
    RepositoryConfig.decode?_of_kind?_none (List.nodup_singleton k) (by
      rw [kind?, Assoc.get?_cons, if_neg hk.symm]
      rfl)
  rw [Setting.mergeAt_cons_table, Setting.isOpen_cons_table, (decode?_set hes.keys hreads _).2.1,
    Setting.decode_mergeAt_bind_singleton hx (hes.of_get? _) hreads.repository hempty hset,
    apply_ite (Option.map _)]
  rfl

theorem bind_of_authOf? {o : Option Setting} {a : AuthConfig} (h : authOf? o = some (some a)) :
    o.bind AuthConfig.decode? = some a := by
  cases o with
  | none => cases h
  | some y =>
    rw [authOf?, Option.elim_some] at h
    split_ifs at h
    · cases h
    · obtain ⟨b, hb, hba⟩ := Option.map_eq_some_iff.mp h
      cases hba
      exact hb

theorem decode?_mergeAt_auth {a : AuthConfig} {o : Option AuthConfig} {ks : List String}
    (hes : Setting.Tidy (.table es)) (hreads : Reads es c) (hauth : c.auth = some a)
    (hk : "type" ≠ k)
    (hset : ∀ sub, Setting.Tidy (.table sub) → AuthConfig.decode? (Setting.table sub) = some a →
      AuthConfig.decode? (Setting.mergeAt x (k :: ks) (.table sub)) =
        if Setting.isOpen (k :: ks) (.table sub) then o else none) :
    decode? (Setting.mergeAt x ("auth" :: k :: ks) (.table es)) =
      if Setting.isOpen ("auth" :: k :: ks) (.table es)
      then o.map fun a => { c with auth := some a } else none := by
  have hempty : ∀ y, AuthConfig.decode? (Setting.table [(k, y)]) = none := fun y =>
    AuthConfig.decode?_of_kind?_none (List.nodup_singleton k) (by
      rw [kind?, Assoc.get?_cons, if_neg hk.symm]
      rfl)
  have hsection := Setting.decode_mergeAt_bind
    (bind_of_authOf? (hreads.auth.trans (congrArg some hauth))) hempty
    fun sub hsub hdecode => hset sub (hes.of_get? _ _ hsub) hdecode
  -- A value below the section makes it a table, so that it is not absent.
  have hpresent : authOf? (some (Setting.mergeAt x (k :: ks)
      ((Assoc.get? "auth" es).getD .absent))) =
        (AuthConfig.decode? (Setting.mergeAt x (k :: ks)
          ((Assoc.get? "auth" es).getD .absent))).map some := rfl
  rw [Setting.mergeAt_cons_table, Setting.isOpen_cons_table,
    (decode?_set hes.keys hreads _).2.2.2.1, hpresent, hsection, Option.map_map,
    apply_ite (Option.map _)]
  rfl

theorem decode?_mergeAt_auth_singleton {a : AuthConfig} {o : Option AuthConfig}
    (hes : Setting.Tidy (.table es)) (hreads : Reads es c) (hx : ∀ es, x ≠ .table es)
    (hauth : c.auth = some a) (hk : "type" ≠ k)
    (hset : ∀ sub : Assoc Setting, sub.keys.Nodup →
      AuthConfig.decode? (Setting.table sub) = some a →
        AuthConfig.decode? (Setting.table (Assoc.set k x sub)) = o) :
    decode? (Setting.mergeAt x ["auth", k] (.table es)) =
      if Setting.isOpen ["auth", k] (.table es)
      then o.map fun a => { c with auth := some a } else none := by
  refine decode?_mergeAt_auth hes hreads hauth hk fun sub hsub hdecode => ?_
  rw [Setting.mergeAt_singleton hx, if_pos (Setting.isOpen_singleton k sub)]
  exact hset sub hsub.keys hdecode

theorem decode?_mergeAt_key {key : KeyConfig} {span ttl : String} {o : Option KeyConfig}
    (hes : Setting.Tidy (.table es)) (hreads : Reads es c) (hx : ∀ es, x ≠ .table es)
    (hauth : c.auth = some (.signed key span ttl)) (hk : "type" ≠ k)
    (hset : ∀ sub : Assoc Setting, sub.keys.Nodup →
      KeyConfig.decode? (Setting.table sub).plain = some key →
        KeyConfig.decode? (Setting.table (Assoc.set k x sub)).plain = o) :
    decode? (Setting.mergeAt x ["auth", "key_source", k] (.table es)) =
      if Setting.isOpen ["auth", "key_source", k] (.table es)
      then o.map fun key => { c with auth := some (.signed key span ttl) } else none := by
  have hempty : ∀ y, KeyConfig.decode? (Setting.table [(k, y)]).plain = none := fun y =>
    KeyConfig.decode?_of_kind?_none (List.nodup_singleton k) (by
      rw [plainText?, Assoc.get?_cons, if_neg hk.symm]
      rfl)
  have hsection : ∀ sub, Setting.Tidy (.table sub) →
      AuthConfig.decode? (Setting.table sub) = some (.signed key span ttl) →
      AuthConfig.decode? (Setting.mergeAt x ["key_source", k] (.table sub)) =
        if Setting.isOpen ["key_source", k] (.table sub) then o.map (.signed · span ttl)
        else none := by
    intro sub hsub hdecode
    have hkey := Setting.decode_mergeAt_bind_singleton hx (hsub.of_get? _)
      (AuthConfig.key_of_decode? hsub.keys hdecode) hempty hset
    rw [Setting.mergeAt_cons_table, Setting.isOpen_cons_table,
      (AuthConfig.decode?_set_signed hsub.keys hdecode _).1, hkey, apply_ite (Option.map _)]
    rfl
  rw [decode?_mergeAt_auth hes hreads hauth (by decide) hsection, Option.map_map]
  rfl

end Config
end Gateway
