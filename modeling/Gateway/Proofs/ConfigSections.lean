import Gateway.Proofs.SettingRecords

/-! # Sections of a configuration: what a value under one name does to what is decoded -/
namespace Gateway
open Record Setting

namespace RepositoryConfig
variable {es : Assoc Setting}

def kind : RepositoryConfig → String
  | file _ => "file"
  | http .. => "http"

theorem kind?_of_decode? (hes : es.keys.Nodup) {c : RepositoryConfig}
    (h : decode? (Setting.table es) = some c) : kind? es = some c.kind := by
  rw [decode?, tagged?_eq rfl hes, ← kind?] at h
  obtain ⟨t, ht, h⟩ := Option.bind_eq_some_iff.mp h
  obtain ⟨kind, hkind, rfl⟩ := Option.map_eq_some_iff.mp ht
  rw [hkind]
  dsimp only at h
  split at h
  · obtain ⟨r, -, h⟩ := Option.bind_eq_some_iff.mp h
    obtain ⟨path, -, h⟩ := Option.bind_eq_some_iff.mp h
    cases h
    rfl
  · obtain ⟨r, -, h⟩ := Option.bind_eq_some_iff.mp h
    obtain ⟨url, -, h⟩ := Option.bind_eq_some_iff.mp h
    obtain ⟨timeout, -, h⟩ := Option.bind_eq_some_iff.mp h
    cases h
    rfl
  · cases h

theorem decode?_of_kind?_none (hes : es.keys.Nodup) (hkind : kind? es = none) :
    decode? (Setting.table es) = none := by
  rw [decode?, tagged?_eq rfl hes, ← kind?, hkind]
  rfl

theorem decode?_file (hes : es.keys.Nodup) (hkind : kind? es = some "file") :
    decode? (Setting.table es) = (plainText? es "path").bind fun path => some (.file path) := by
  obtain ⟨t, r, ht, htag, hr, hvalues⟩ := exists_tagged (x := Setting.table es) rfl hes hkind
    (by decide : ["path"].Nodup) (by decide)
  simp only [decode?, ht, htag, hr, required_text (hvalues "path" (by decide)),
    Option.bind_eq_bind, Option.bind_some, Option.pure_def]

theorem decode?_http (hes : es.keys.Nodup) (hkind : kind? es = some "http") :
    decode? (Setting.table es) = (plainText? es "url").bind fun url =>
      ((Assoc.get? "timeout_secs" es).elim (some Config.defaultTimeoutSecs) fun x =>
        unsigned64? x.plain).bind fun timeout => some (.http url timeout) := by
  obtain ⟨t, r, ht, htag, hr, hvalues⟩ := exists_tagged (x := Setting.table es) rfl hes hkind
    (by decide : ["url", "timeout_secs"].Nodup) (by decide)
  simp only [decode?, ht, htag, hr, required_text (hvalues "url" (by decide)), withDefault_eq,
    hvalues "timeout_secs" (by decide), Option.elim_map, Option.bind_eq_bind, Option.bind_some,
    Option.pure_def]
  rfl

theorem decode?_set_path (hes : es.keys.Nodup) {path : String}
    (h : decode? (Setting.table es) = some (.file path)) (y : Setting) :
    decode? (Setting.table (Assoc.set "path" y es)) = y.plain.text?.map .file := by
  have hkind := kind?_of_decode? hes h
  rw [decode?_file (Assoc.nodup_keys_set hes _ _) (kind?_set hkind (by decide) y), plainText?_set,
    if_pos rfl, Option.map_eq_bind]
  rfl

theorem decode?_set_url (hes : es.keys.Nodup) {url : String} {timeout : Nat}
    (h : decode? (Setting.table es) = some (.http url timeout)) (y : Setting) :
    decode? (Setting.table (Assoc.set "url" y es)) = y.plain.text?.map (.http · timeout) := by
  have hkind := kind?_of_decode? hes h
  rw [decode?_http hes hkind] at h
  obtain ⟨url', -, h⟩ := Option.bind_eq_some_iff.mp h
  obtain ⟨timeout', htimeout, h⟩ := Option.bind_eq_some_iff.mp h
  cases h
  rw [decode?_http (Assoc.nodup_keys_set hes _ _) (kind?_set hkind (by decide) y), plainText?_set,
    if_pos rfl, Assoc.get?_set_of_ne y es (by decide), htimeout, Option.map_eq_bind]
  rfl

end RepositoryConfig

namespace Setting

theorem plainEntries_eq_map (es : Assoc Setting) :
    plainEntries es = es.map fun e => (e.1, e.2.plain) := by
  induction es with
  | nil => rfl
  | cons e es ih =>
    rw [plainEntries, ih]
    rfl

theorem nodup_keys_plainEntries {es : Assoc Setting} (hes : es.keys.Nodup) :
    (Assoc.keys (plainEntries es)).Nodup := by
  rw [plainEntries_eq_map, Assoc.keys_map]
  exact hes

theorem fields?_plain (es : Assoc Setting) :
    Source.fields? (Setting.table es).plain = some (plainEntries es) := by
  rw [plain]
  rfl

theorem plainText?_plainEntries (es : Assoc Setting) (name : String) :
    plainText? (plainEntries es) name = plainText? es name := by
  rw [plainText?, plainEntries_eq_map, Assoc.get?_map, Option.bind_map]
  rfl

end Setting

namespace KeyConfig
variable {es : Assoc Setting}

def kind : KeyConfig → String
  | env _ => "env"
  | fixed _ => "static"
  | http .. => "http"

/-- Inside another section the tag is taken plainly too. -/
theorem kind?_plainEntries (es : Assoc Setting) :
    kind? (plainEntries es) = plainText? es "type" := plainText?_plainEntries es "type"

theorem kind?_of_decode? (hes : es.keys.Nodup) {c : KeyConfig}
    (h : decode? (Setting.table es).plain = some c) : plainText? es "type" = some c.kind := by
  rw [← kind?_plainEntries]
  rw [decode?, tagged?_eq (fields?_plain es) (nodup_keys_plainEntries hes), ← kind?] at h
  obtain ⟨t, ht, h⟩ := Option.bind_eq_some_iff.mp h
  obtain ⟨kind, hkind, rfl⟩ := Option.map_eq_some_iff.mp ht
  rw [hkind]
  dsimp only at h
  split at h
  · obtain ⟨r, -, h⟩ := Option.bind_eq_some_iff.mp h
    obtain ⟨name, -, h⟩ := Option.bind_eq_some_iff.mp h
    cases h
    rfl
  · obtain ⟨r, -, h⟩ := Option.bind_eq_some_iff.mp h
    obtain ⟨key, -, h⟩ := Option.bind_eq_some_iff.mp h
    cases h
    rfl
  · obtain ⟨r, -, h⟩ := Option.bind_eq_some_iff.mp h
    obtain ⟨url, -, h⟩ := Option.bind_eq_some_iff.mp h
    obtain ⟨field, -, h⟩ := Option.bind_eq_some_iff.mp h
    cases h
    rfl
  · cases h

theorem decode?_of_kind?_none (hes : es.keys.Nodup) (hkind : plainText? es "type" = none) :
    decode? (Setting.table es).plain = none := by
  rw [decode?, tagged?_eq (fields?_plain es) (nodup_keys_plainEntries hes), ← kind?,
    kind?_plainEntries, hkind]
  rfl

theorem decode?_env (hes : es.keys.Nodup) (hkind : plainText? es "type" = some "env") :
    decode? (Setting.table es).plain = (plainText? es "var").bind fun name => some (.env name) := by
  rw [← kind?_plainEntries] at hkind
  obtain ⟨t, r, ht, htag, hr, hvalues⟩ := exists_tagged (fields?_plain es)
    (nodup_keys_plainEntries hes) hkind (by decide : ["var"].Nodup) (by decide)
  simp only [decode?, ht, htag, hr, required_text (hvalues "var" (by decide)),
    plainText?_plainEntries, Option.bind_eq_bind, Option.bind_some, Option.pure_def]

theorem decode?_fixed (hes : es.keys.Nodup) (hkind : plainText? es "type" = some "static") :
    decode? (Setting.table es).plain = (plainText? es "key").bind fun key => some (.fixed key) := by
  rw [← kind?_plainEntries] at hkind
  obtain ⟨t, r, ht, htag, hr, hvalues⟩ := exists_tagged (fields?_plain es)
    (nodup_keys_plainEntries hes) hkind (by decide : ["key"].Nodup) (by decide)
  simp only [decode?, ht, htag, hr, required_text (hvalues "key" (by decide)),
    plainText?_plainEntries, Option.bind_eq_bind, Option.bind_some, Option.pure_def]

theorem decode?_http (hes : es.keys.Nodup) (hkind : plainText? es "type" = some "http") :
    decode? (Setting.table es).plain = (plainText? es "url").bind fun url =>
      (plainText? es "field").bind fun field => some (.http url field) := by
  rw [← kind?_plainEntries] at hkind
  obtain ⟨t, r, ht, htag, hr, hvalues⟩ := exists_tagged (fields?_plain es)
    (nodup_keys_plainEntries hes) hkind (by decide : ["url", "field"].Nodup) (by decide)
  simp only [decode?, ht, htag, hr, required_text (hvalues "url" (by decide)),
    required_text (hvalues "field" (by decide)), plainText?_plainEntries, Option.bind_eq_bind,
    Option.bind_some, Option.pure_def]

theorem decode?_set_var (hes : es.keys.Nodup) {name : String}
    (h : decode? (Setting.table es).plain = some (.env name)) (y : Setting) :
    decode? (Setting.table (Assoc.set "var" y es)).plain = y.plain.text?.map .env := by
  have hkind := kind?_of_decode? hes h
  rw [decode?_env (Assoc.nodup_keys_set hes _ _) (by rw [plainText?_set]; exact hkind),
    plainText?_set, if_pos rfl, Option.map_eq_bind]
  rfl

theorem decode?_set_key (hes : es.keys.Nodup) {key : String}
    (h : decode? (Setting.table es).plain = some (.fixed key)) (y : Setting) :
    decode? (Setting.table (Assoc.set "key" y es)).plain = y.plain.text?.map .fixed := by
  have hkind := kind?_of_decode? hes h
  rw [decode?_fixed (Assoc.nodup_keys_set hes _ _) (by rw [plainText?_set]; exact hkind),
    plainText?_set, if_pos rfl, Option.map_eq_bind]
  rfl

theorem decode?_set_http (hes : es.keys.Nodup) {url field : String}
    (h : decode? (Setting.table es).plain = some (.http url field)) (y : Setting) :
    decode? (Setting.table (Assoc.set "url" y es)).plain = y.plain.text?.map (.http · field) ∧
      decode? (Setting.table (Assoc.set "field" y es)).plain = y.plain.text?.map (.http url ·) := by
  have hkind := kind?_of_decode? hes h
  rw [decode?_http hes hkind] at h
  obtain ⟨_, hurl, h⟩ := Option.bind_eq_some_iff.mp h
  obtain ⟨_, hfield, h⟩ := Option.bind_eq_some_iff.mp h
  cases h
  refine ⟨?_, ?_⟩
  all_goals
    rw [decode?_http (Assoc.nodup_keys_set hes _ _) (by rw [plainText?_set]; exact hkind),
      Option.map_eq_bind]
    simp only [plainText?_set, hurl, hfield, String.reduceEq, reduceIte]
    rfl

end KeyConfig

namespace AuthConfig
variable {es : Assoc Setting}

def kind : AuthConfig → String
  | remote .. => "remote"
  | signed .. => "jwt"

theorem kind?_of_decode? (hes : es.keys.Nodup) {c : AuthConfig}
    (h : decode? (Setting.table es) = some c) : kind? es = some c.kind := by
  rw [decode?, tagged?_eq rfl hes, ← kind?] at h
  obtain ⟨t, ht, h⟩ := Option.bind_eq_some_iff.mp h
  obtain ⟨kind, hkind, rfl⟩ := Option.map_eq_some_iff.mp ht
  rw [hkind]
  dsimp only at h
  split at h
  · obtain ⟨r, -, h⟩ := Option.bind_eq_some_iff.mp h
    obtain ⟨url, -, h⟩ := Option.bind_eq_some_iff.mp h
    obtain ⟨timeout, -, h⟩ := Option.bind_eq_some_iff.mp h
    obtain ⟨ttl, -, h⟩ := Option.bind_eq_some_iff.mp h
    cases h
    rfl
  · obtain ⟨r, -, h⟩ := Option.bind_eq_some_iff.mp h
    obtain ⟨key, -, h⟩ := Option.bind_eq_some_iff.mp h
    obtain ⟨interval, -, h⟩ := Option.bind_eq_some_iff.mp h
    obtain ⟨ttl, -, h⟩ := Option.bind_eq_some_iff.mp h
    cases h
    rfl
  · cases h

theorem decode?_of_kind?_none (hes : es.keys.Nodup) (hkind : kind? es = none) :
    decode? (Setting.table es) = none := by
  rw [decode?, tagged?_eq rfl hes, ← kind?, hkind]
  rfl

theorem decode?_remote (hes : es.keys.Nodup) (hkind : kind? es = some "remote") :
    decode? (Setting.table es) = (plainText? es "url").bind fun url =>
      (plainTextOr? es "timeout" Config.defaultAuthTimeout).bind fun timeout =>
        (plainTextOr? es "negative_ttl" Config.defaultNegativeTtl).bind fun ttl =>
          some (.remote url timeout ttl) := by
  obtain ⟨t, r, ht, htag, hr, hvalues⟩ := exists_tagged (x := Setting.table es) rfl hes hkind
    (by decide : ["url", "timeout", "negative_ttl"].Nodup) (by decide)
  simp only [decode?, ht, htag, hr, required_text (hvalues "url" (by decide)),
    withDefault_text (hvalues "timeout" (by decide)),
    withDefault_text (hvalues "negative_ttl" (by decide)), Option.bind_eq_bind, Option.bind_some,
    Option.pure_def]

theorem decode?_signed (hes : es.keys.Nodup) (hkind : kind? es = some "jwt") :
    decode? (Setting.table es) =
      ((Assoc.get? "key_source" es).bind fun x => KeyConfig.decode? x.plain).bind fun key =>
        (plainTextOr? es "refresh_interval" Config.defaultRefreshInterval).bind fun interval =>
          (plainTextOr? es "negative_ttl" Config.defaultNegativeTtl).bind fun ttl =>
            some (.signed key interval ttl) := by
  obtain ⟨t, r, ht, htag, hr, hvalues⟩ := exists_tagged (x := Setting.table es) rfl hes hkind
    (by decide : ["key_source", "refresh_interval", "negative_ttl"].Nodup) (by decide)
  simp only [decode?, ht, htag, hr, Opened.required, hvalues "key_source" (by decide),
    Option.bind_map, withDefault_text (hvalues "refresh_interval" (by decide)),
    withDefault_text (hvalues "negative_ttl" (by decide)), Option.bind_eq_bind, Option.bind_some,
    Option.pure_def]
  rfl

theorem decode?_set_remote (hes : es.keys.Nodup) {url timeout ttl : String}
    (h : decode? (Setting.table es) = some (.remote url timeout ttl)) (y : Setting) :
    decode? (Setting.table (Assoc.set "url" y es)) =
        y.plain.text?.map (.remote · timeout ttl) ∧
      decode? (Setting.table (Assoc.set "timeout" y es)) =
        y.plain.text?.map (.remote url · ttl) ∧
      decode? (Setting.table (Assoc.set "negative_ttl" y es)) =
        y.plain.text?.map (.remote url timeout ·) := by
  have hkind := kind?_of_decode? hes h
  rw [decode?_remote hes hkind] at h
  obtain ⟨_, hurl, h⟩ := Option.bind_eq_some_iff.mp h
  obtain ⟨_, htimeout, h⟩ := Option.bind_eq_some_iff.mp h
  obtain ⟨_, httl, h⟩ := Option.bind_eq_some_iff.mp h
  cases h
  refine ⟨?_, ?_, ?_⟩
  all_goals
    rw [decode?_remote (Assoc.nodup_keys_set hes _ _) (kind?_set hkind (by decide) y),
      Option.map_eq_bind]
    simp only [plainText?_set, plainTextOr?_set, hurl, htimeout, httl, String.reduceEq, reduceIte]
    rfl

theorem key_of_decode? (hes : es.keys.Nodup) {key : KeyConfig} {interval ttl : String}
    (h : decode? (Setting.table es) = some (.signed key interval ttl)) :
    ((Assoc.get? "key_source" es).bind fun x => KeyConfig.decode? x.plain) = some key := by
  rw [decode?_signed hes (kind?_of_decode? hes h)] at h
  obtain ⟨_, hkey, h⟩ := Option.bind_eq_some_iff.mp h
  obtain ⟨_, -, h⟩ := Option.bind_eq_some_iff.mp h
  obtain ⟨_, -, h⟩ := Option.bind_eq_some_iff.mp h
  cases h
  exact hkey

theorem decode?_set_signed (hes : es.keys.Nodup) {key : KeyConfig} {interval ttl : String}
    (h : decode? (Setting.table es) = some (.signed key interval ttl)) (y : Setting) :
    decode? (Setting.table (Assoc.set "key_source" y es)) =
        (KeyConfig.decode? y.plain).map (.signed · interval ttl) ∧
      decode? (Setting.table (Assoc.set "refresh_interval" y es)) =
        y.plain.text?.map (.signed key · ttl) ∧
      decode? (Setting.table (Assoc.set "negative_ttl" y es)) =
        y.plain.text?.map (.signed key interval ·) := by
  have hkind := kind?_of_decode? hes h
  rw [decode?_signed hes hkind] at h
  obtain ⟨_, hkey, h⟩ := Option.bind_eq_some_iff.mp h
  obtain ⟨_, hinterval, h⟩ := Option.bind_eq_some_iff.mp h
  obtain ⟨_, httl, h⟩ := Option.bind_eq_some_iff.mp h
  cases h
  refine ⟨?_, ?_, ?_⟩
  all_goals
    rw [decode?_signed (Assoc.nodup_keys_set hes _ _) (kind?_set hkind (by decide) y),
      Option.map_eq_bind]
    simp only [Assoc.get?_set, plainTextOr?_set, hkey, hinterval, httl, String.reduceEq, reduceIte,
      Option.bind_some]
    rfl

end AuthConfig

namespace DetectorConfig
variable {es : Assoc Setting}

theorem decode?_table (hes : es.keys.Nodup) : decode? (Setting.table es) =
    ((Assoc.get? "interval" es).elim (some Config.defaultDetector.interval) Setting.text?).bind
      fun interval =>
        ((Assoc.get? "channel_capacity" es).elim (some Config.defaultDetector.channelCapacity)
          unsigned64?).bind fun capacity => some ⟨interval, capacity⟩ := by
  obtain ⟨r, hr, hvalues⟩ := exists_collect?_of_nodup (x := Setting.table es) rfl hes
    (by decide : ["interval", "channel_capacity"].Nodup)
  simp only [decode?, hr, withDefault_eq, hvalues "interval" (by decide),
    hvalues "channel_capacity" (by decide), Option.bind_eq_bind, Option.bind_some, Option.pure_def]
  rfl

theorem decode?_set_interval (hes : es.keys.Nodup) {d : DetectorConfig}
    (h : decode? (Setting.table es) = some d) (y : Setting) :
    decode? (Setting.table (Assoc.set "interval" y es)) =
      y.text?.map fun t => { d with interval := t } := by
  rw [decode?_table hes] at h
  obtain ⟨_, -, h⟩ := Option.bind_eq_some_iff.mp h
  obtain ⟨_, hcapacity, h⟩ := Option.bind_eq_some_iff.mp h
  cases h
  rw [decode?_table (Assoc.nodup_keys_set hes _ _), Option.map_eq_bind]
  simp only [Assoc.get?_set, hcapacity, String.reduceEq, reduceIte]
  rfl

end DetectorConfig

namespace LoggingConfig
variable {es : Assoc Setting}

theorem decode?_table (hes : es.keys.Nodup) : decode? (Setting.table es) =
    ((Assoc.get? "level" es).elim (some Config.defaultLogging.level) Setting.text?).bind
      fun level =>
        ((Assoc.get? "json" es).elim (some Config.defaultLogging.json) Setting.flag?).bind
          fun json => some ⟨level, json⟩ := by
  obtain ⟨r, hr, hvalues⟩ := exists_collect?_of_nodup (x := Setting.table es) rfl hes
    (by decide : ["level", "json"].Nodup)
  simp only [decode?, hr, withDefault_eq, hvalues "level" (by decide), hvalues "json" (by decide),
    Option.bind_eq_bind, Option.bind_some, Option.pure_def]
  rfl

theorem decode?_set_level (hes : es.keys.Nodup) {l : LoggingConfig}
    (h : decode? (Setting.table es) = some l) (y : Setting) :
    decode? (Setting.table (Assoc.set "level" y es)) =
      y.text?.map fun t => { l with level := t } := by
  rw [decode?_table hes] at h
  obtain ⟨_, -, h⟩ := Option.bind_eq_some_iff.mp h
  obtain ⟨_, hjson, h⟩ := Option.bind_eq_some_iff.mp h
  cases h
  rw [decode?_table (Assoc.nodup_keys_set hes _ _), Option.map_eq_bind]
  simp only [Assoc.get?_set, hjson, String.reduceEq, reduceIte]
  rfl

end LoggingConfig

namespace Config
variable {es : Assoc Setting} {c : Config}

theorem decodeDrain?_table (hes : es.keys.Nodup) : decodeDrain? (Setting.table es) =
    (Assoc.get? "drain_timeout" es).elim (some defaultDrainTimeout) Setting.text? := by
  obtain ⟨r, hr, hvalues⟩ := exists_collect?_of_nodup (x := Setting.table es) rfl hes
    (by decide : ["drain_timeout"].Nodup)
  simp only [decodeDrain?, hr, withDefault_eq, hvalues "drain_timeout" (by decide),
    Option.bind_eq_bind, Option.bind_some]
  rfl

theorem decodeDrain?_set (hes : es.keys.Nodup) (y : Setting) :
    decodeDrain? (Setting.table (Assoc.set "drain_timeout" y es)) = y.text? := by
  rw [decodeDrain?_table (Assoc.nodup_keys_set hes _ _), Assoc.get?_set_self, Option.elim_some]

/-- What stands under "auth" may be absent. -/
def authOf? (o : Option Setting) : Option (Option AuthConfig) :=
  o.elim (some none) fun x =>
    if Source.isAbsent x then some none else (AuthConfig.decode? x).map some

/-- A configuration and the sections that it is decoded from. -/
structure Reads (es : Assoc Setting) (c : Config) : Prop where
  listenAddr : (Assoc.get? "listen_addr" es).elim (some defaultListenAddr) Setting.text? =
    some c.listenAddr
  repository : (Assoc.get? "repository" es).bind RepositoryConfig.decode? = some c.repository
  detector : (Assoc.get? "change_detector" es).elim (some defaultDetector) DetectorConfig.decode? =
    some c.detector
  auth : authOf? (Assoc.get? "auth" es) = some c.auth
  drainTimeout : (Assoc.get? "shutdown" es).elim (some defaultDrainTimeout) decodeDrain? =
    some c.drainTimeout
  logging : (Assoc.get? "logging" es).elim (some defaultLogging) LoggingConfig.decode? =
    some c.logging

theorem decode?_table (hes : es.keys.Nodup) : decode? (Setting.table es) =
    ((Assoc.get? "listen_addr" es).elim (some defaultListenAddr) Setting.text?).bind
      fun listenAddr =>
        ((Assoc.get? "repository" es).bind RepositoryConfig.decode?).bind fun repository =>
          ((Assoc.get? "change_detector" es).elim (some defaultDetector)
            DetectorConfig.decode?).bind fun detector =>
              (authOf? (Assoc.get? "auth" es)).bind fun auth =>
                ((Assoc.get? "shutdown" es).elim (some defaultDrainTimeout) decodeDrain?).bind
                  fun drainTimeout =>
                    ((Assoc.get? "logging" es).elim (some defaultLogging)
                      LoggingConfig.decode?).bind fun logging =>
                        some ⟨listenAddr, repository, detector, auth, drainTimeout, logging⟩ := by
  obtain ⟨r, hr, hvalues⟩ := exists_collect?_of_nodup (x := Setting.table es) rfl hes
    (by decide : ["listen_addr", "repository", "change_detector", "auth", "shutdown",
      "logging"].Nodup)
  have hauth : r.optional "auth" AuthConfig.decode? = authOf? (Assoc.get? "auth" es) := by
    rw [Opened.optional, hvalues "auth" (by decide), authOf?]
    cases Assoc.get? "auth" es <;> rfl
  simp only [decode?, slots, hr, withDefault_eq, Opened.required, hauth,
    hvalues "listen_addr" (by decide), hvalues "repository" (by decide),
    hvalues "change_detector" (by decide), hvalues "shutdown" (by decide),
    hvalues "logging" (by decide), Option.bind_eq_bind, Option.bind_some, Option.pure_def]
  rfl

theorem reads_of_decode? (hes : es.keys.Nodup) (h : decode? (Setting.table es) = some c) :
    Reads es c := by
  rw [decode?_table hes] at h
  obtain ⟨_, hlistenAddr, h⟩ := Option.bind_eq_some_iff.mp h
  obtain ⟨_, hrepository, h⟩ := Option.bind_eq_some_iff.mp h
  obtain ⟨_, hdetector, h⟩ := Option.bind_eq_some_iff.mp h
  obtain ⟨_, hauth, h⟩ := Option.bind_eq_some_iff.mp h
  obtain ⟨_, hdrain, h⟩ := Option.bind_eq_some_iff.mp h
  obtain ⟨_, hlogging, h⟩ := Option.bind_eq_some_iff.mp h
  cases h
  exact ⟨hlistenAddr, hrepository, hdetector, hauth, hdrain, hlogging⟩

/-- What stands for a section decides this section only. -/
theorem decode?_set (hes : es.keys.Nodup) (h : Reads es c) (y : Setting) :
    decode? (Setting.table (Assoc.set "listen_addr" y es)) =
        y.text?.map (fun t => { c with listenAddr := t }) ∧
      decode? (Setting.table (Assoc.set "repository" y es)) =
        (RepositoryConfig.decode? y).map (fun r => { c with repository := r }) ∧
      decode? (Setting.table (Assoc.set "change_detector" y es)) =
        (DetectorConfig.decode? y).map (fun d => { c with detector := d }) ∧
      decode? (Setting.table (Assoc.set "auth" y es)) =
        (authOf? (some y)).map (fun a => { c with auth := a }) ∧
      decode? (Setting.table (Assoc.set "shutdown" y es)) =
        (decodeDrain? y).map (fun t => { c with drainTimeout := t }) ∧
      decode? (Setting.table (Assoc.set "logging" y es)) =
        (LoggingConfig.decode? y).map (fun l => { c with logging := l }) := by
  refine ⟨?_, ?_, ?_, ?_, ?_, ?_⟩
  all_goals
    rw [decode?_table (Assoc.nodup_keys_set hes _ _), Option.map_eq_bind]
    simp only [Assoc.get?_set, h.listenAddr, h.repository, h.detector, h.auth, h.drainTimeout,
      h.logging, String.reduceEq, reduceIte]
    rfl

end Config
end Gateway
