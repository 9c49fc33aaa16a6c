import Gateway.Proofs.SectionOverrides

/-! # Overrides: what a variable of the environment does to the text that it names -/
namespace Gateway

namespace Setting
open Text

/-- A text that looks like a flag or a number. -/
def IsTyped (s : String) : Prop :=
  lowerAscii s = "true" ∨ lowerAscii s = "false" ∨ (wholeOf? s).isSome ∨ (Double.read? s).isSome

instance (s : String) : Decidable (IsTyped s) := inferInstanceAs (Decidable (_ ∨ _))

theorem ofText_cases (s : String) :
    (¬IsTyped s ∧ ofText s = .text s) ∨ IsTyped s ∧
      ((∃ b, ofText s = .flag b) ∨ (∃ n, ofText s = .int n) ∨ ∃ x, ofText s = .real x) := by
  rw [ofText, IsTyped]
  simp only [beq_iff_eq]
  split_ifs with htrue hfalse
  · exact .inr ⟨.inl htrue, .inl ⟨true, rfl⟩⟩
  · exact .inr ⟨.inr (.inl hfalse), .inl ⟨false, rfl⟩⟩
  · cases wholeOf? s with
    | some n => exact .inr ⟨.inr (.inr (.inl rfl)), .inr (.inl ⟨n, rfl⟩)⟩
    | none =>
      cases Double.read? s with
      | some x => exact .inr ⟨.inr (.inr (.inr rfl)), .inr (.inr ⟨x, rfl⟩)⟩
      | none => exact .inl ⟨by simp [htrue, hfalse], rfl⟩

theorem exists_text?_ofText (s : String) : ∃ t, (ofText s).text? = some t := by
  rcases ofText_cases s with ⟨-, h⟩ | ⟨-, ⟨b, h⟩ | ⟨n, h⟩ | ⟨x, h⟩⟩ <;> rw [h] <;> exact ⟨_, rfl⟩

theorem ofText_ne_table (s : String) : ∀ es, ofText s ≠ .table es := by
  rcases ofText_cases s with ⟨-, h⟩ | ⟨-, ⟨b, h⟩ | ⟨n, h⟩ | ⟨x, h⟩⟩ <;> rw [h] <;> exact nofun

end Setting

namespace Config

/-- The settings that are texts. -/
inductive TextField
  | listenAddr
  | repositoryPath
  | repositoryUrl
  | interval
  | authUrl
  | authTimeout
  | negativeTtl
  | refreshInterval
  | keyName
  | fixedKey
  | keyUrl
  | keyField
  | drainTimeout
  | level
  deriving DecidableEq, Repr

namespace TextField

def names : TextField → List String
  | listenAddr => ["listen_addr"]
  | repositoryPath => ["repository", "path"]
  | repositoryUrl => ["repository", "url"]
  | interval => ["change_detector", "interval"]
  | authUrl => ["auth", "url"]
  | authTimeout => ["auth", "timeout"]
  | negativeTtl => ["auth", "negative_ttl"]
  | refreshInterval => ["auth", "refresh_interval"]
  | keyName => ["auth", "key_source", "var"]
  | fixedKey => ["auth", "key_source", "key"]
  | keyUrl => ["auth", "key_source", "url"]
  | keyField => ["auth", "key_source", "field"]
  | drainTimeout => ["shutdown", "drain_timeout"]
  | level => ["logging", "level"]

/-- The variable that overrides a setting. -/
def variableName : TextField → String
  | listenAddr => "SWITCHYARD__LISTEN_ADDR"
  | repositoryPath => "SWITCHYARD__REPOSITORY__PATH"
  | repositoryUrl => "SWITCHYARD__REPOSITORY__URL"
  | interval => "SWITCHYARD__CHANGE_DETECTOR__INTERVAL"
  | authUrl => "SWITCHYARD__AUTH__URL"
  | authTimeout => "SWITCHYARD__AUTH__TIMEOUT"
  | negativeTtl => "SWITCHYARD__AUTH__NEGATIVE_TTL"
  | refreshInterval => "SWITCHYARD__AUTH__REFRESH_INTERVAL"
  | keyName => "SWITCHYARD__AUTH__KEY_SOURCE__VAR"
  | fixedKey => "SWITCHYARD__AUTH__KEY_SOURCE__KEY"
  | keyUrl => "SWITCHYARD__AUTH__KEY_SOURCE__URL"
  | keyField => "SWITCHYARD__AUTH__KEY_SOURCE__FIELD"
  | drainTimeout => "SWITCHYARD__SHUTDOWN__DRAIN_TIMEOUT"
  | level => "SWITCHYARD__LOGGING__LEVEL"

theorem pathOf_variableName (f : TextField) :
    (overrideName? f.variableName).map Setting.pathOf = some f.names := by
  cases f <;> decide +kernel

/-- Whether the setting stands in a section that is taken plainly, before its kind is known. -/
def isPlain : TextField → Bool
  | listenAddr | interval | drainTimeout | level => false
  | _ => true

/-- Whether the setting says how callers are identified. -/
def isAuth : TextField → Bool
  | authUrl | authTimeout | negativeTtl | refreshInterval => true
  | keyName | fixedKey | keyUrl | keyField => true
  | _ => false

/-- The setting's text, where a configuration has the setting. -/
def get? (c : Config) : TextField → Option String
  | listenAddr => some c.listenAddr
  | repositoryPath => match c.repository with | .file path => some path | .http .. => none
  | repositoryUrl => match c.repository with | .http url _ => some url | .file _ => none
  | interval => some c.detector.interval
  | authUrl => match c.auth with | some (.remote url _ _) => some url | _ => none
  | authTimeout => match c.auth with | some (.remote _ timeout _) => some timeout | _ => none
  | negativeTtl =>
    match c.auth with
    | some (.remote _ _ ttl) => some ttl
    | some (.signed _ _ ttl) => some ttl
    | none => none
  | refreshInterval => match c.auth with | some (.signed _ span _) => some span | _ => none
  | keyName => match c.auth with | some (.signed (.env name) _ _) => some name | _ => none
  | fixedKey => match c.auth with | some (.signed (.fixed key) _ _) => some key | _ => none
  | keyUrl => match c.auth with | some (.signed (.http url _) _ _) => some url | _ => none
  | keyField => match c.auth with | some (.signed (.http _ field) _ _) => some field | _ => none
  | drainTimeout => some c.drainTimeout
  | level => some c.logging.level

/-- Another way to identify callers, if they are identified at all. -/
def mapAuth (c : Config) (f : AuthConfig → AuthConfig) : Config := { c with auth := c.auth.map f }

/-- A configuration with a text in the place of a setting that it has. -/
def put (c : Config) (t : String) : TextField → Config
  | listenAddr => { c with listenAddr := t }
  | repositoryPath =>
    { c with repository := match c.repository with | .file _ => .file t | r => r }
  | repositoryUrl =>
    { c with repository := match c.repository with | .http _ secs => .http t secs | r => r }
  | interval => { c with detector := { c.detector with interval := t } }
  | authUrl => mapAuth c fun | .remote _ timeout ttl => .remote t timeout ttl | a => a
  | authTimeout => mapAuth c fun | .remote url _ ttl => .remote url t ttl | a => a
  | negativeTtl =>
    mapAuth c fun
      | .remote url timeout _ => .remote url timeout t
      | .signed key span _ => .signed key span t
  | refreshInterval => mapAuth c fun | .signed key _ ttl => .signed key t ttl | a => a
  | keyName => mapAuth c fun | .signed (.env _) span ttl => .signed (.env t) span ttl | a => a
  | fixedKey => mapAuth c fun | .signed (.fixed _) span ttl => .signed (.fixed t) span ttl | a => a
  | keyUrl =>
    mapAuth c fun | .signed (.http _ field) span ttl => .signed (.http t field) span ttl | a => a
  | keyField =>
    mapAuth c fun | .signed (.http url _) span ttl => .signed (.http url t) span ttl | a => a
  | drainTimeout => { c with drainTimeout := t }
  | level => { c with logging := { c.logging with level := t } }

/-- A configuration in which the rest of a setting's section is as if it were not given. -/
def reset (c : Config) : TextField → Config
  | interval => { c with detector := defaultDetector }
  | level => { c with logging := defaultLogging }
  | _ => c

/-- What a setting of any type gives for the text. -/
def read? (f : TextField) (x : Setting) : Option String :=
  if f.isPlain then x.plain.text? else x.text?

/-- Another text changes nothing else. -/
theorem get?_put (f g : TextField) (t : String) (c : Config) :
    g.get? (f.put c t) = if g = f then (f.get? c).map fun _ => t else g.get? c := by
  obtain ⟨listenAddr, repository, detector, auth, drainTimeout, logging⟩ := c
  cases f with
  | listenAddr | interval | drainTimeout | level => cases g <;> rfl
  | repositoryPath | repositoryUrl => cases repository <;> cases g <;> rfl
  | authUrl | authTimeout | negativeTtl | refreshInterval | keyName | fixedKey | keyUrl
  | keyField =>
    rcases auth with _ | (⟨url, timeout, ttl⟩ | ⟨_ | _ | _, span, ttl⟩) <;> cases g <;> rfl

end TextField

variable {es : Assoc Setting} {c : Config} {x : Setting} {f : TextField}

open TextField

/-- What an override makes of a configuration, if it can be decoded at all. A section that is given
as a list is replaced, and a section that tells its kind by a tag is then without it. -/
def overridden? (f : TextField) (c : Config) (keyed : Bool) (x : Setting) : Option Config :=
  if keyed then (f.read? x).map fun t => f.put c t
  else if f.isPlain then none
  else (f.read? x).map fun t => f.put (f.reset c) t

/-- Where a section is needed, an override makes of the configuration what it makes of the part `g`
that is decoded from the section. -/
theorem overridden?_of_isPlain {β : Type} {g : String → β} {h : β → Config}
    (hplain : f.isPlain = true) (keyed : Bool) (hput : ∀ t, f.put c t = h (g t)) :
    (if keyed then (x.plain.text?.map g).map h else none) = overridden? f c keyed x := by
  have hput : (fun t => f.put c t) = h ∘ g := funext hput
  rw [overridden?, read?, if_pos hplain, if_pos hplain, hput, Option.map_map]

theorem overridden?_of_not_isPlain (hplain : f.isPlain = false) (keyed : Bool) :
    overridden? f c keyed x =
      x.text?.map fun t => f.put (if keyed then c else f.reset c) t := by
  rw [overridden?, read?, hplain]
  cases keyed <;> rfl

theorem decode?_mergeAt_of_isAuth (hes : Setting.Tidy (.table es)) (hreads : Reads es c)
    (hused : (f.get? c).isSome) (hx : ∀ es, x ≠ .table es) (hf : f.isAuth = true) :
    decode? (Setting.mergeAt x f.names (.table es)) =
      overridden? f c (Setting.isOpen f.names (.table es)) x := by
  obtain ⟨listenAddr, repository, detector, auth, drainTimeout, logging⟩ := c
  cases f with
  | listenAddr | repositoryPath | repositoryUrl | interval | drainTimeout | level => cases hf
  | authUrl =>
    rcases auth with _ | (⟨url, timeout, ttl⟩ | ⟨key, span, ttl⟩)
    case some.remote =>
      rw [names, decode?_mergeAt_auth_singleton hes hreads hx rfl (by decide)
        fun sub hsub hdecode => (AuthConfig.decode?_set_remote hsub hdecode x).1]
      exact overridden?_of_isPlain rfl _ fun _ => rfl
    all_goals cases hused
  | authTimeout =>
    rcases auth with _ | (⟨url, timeout, ttl⟩ | ⟨key, span, ttl⟩)
    case some.remote =>
      rw [names, decode?_mergeAt_auth_singleton hes hreads hx rfl (by decide)
        fun sub hsub hdecode => (AuthConfig.decode?_set_remote hsub hdecode x).2.1]
      exact overridden?_of_isPlain rfl _ fun _ => rfl
    all_goals cases hused
  | negativeTtl =>
    rcases auth with _ | (⟨url, timeout, ttl⟩ | ⟨key, span, ttl⟩)
    case some.remote =>
      rw [names, decode?_mergeAt_auth_singleton hes hreads hx rfl (by decide)
        fun sub hsub hdecode => (AuthConfig.decode?_set_remote hsub hdecode x).2.2]
      exact overridden?_of_isPlain rfl _ fun _ => rfl
    case some.signed =>
      rw [names, decode?_mergeAt_auth_singleton hes hreads hx rfl (by decide)
        fun sub hsub hdecode => (AuthConfig.decode?_set_signed hsub hdecode x).2.2]
      exact overridden?_of_isPlain rfl _ fun _ => rfl
    all_goals cases hused
  | refreshInterval =>
    rcases auth with _ | (⟨url, timeout, ttl⟩ | ⟨key, span, ttl⟩)
    case some.signed =>
      rw [names, decode?_mergeAt_auth_singleton hes hreads hx rfl (by decide)
        fun sub hsub hdecode => (AuthConfig.decode?_set_signed hsub hdecode x).2.1]
      exact overridden?_of_isPlain rfl _ fun _ => rfl
    all_goals cases hused
  | keyName =>
    rcases auth with _ | (⟨url, timeout, ttl⟩ | ⟨name | key | ⟨url, field⟩, span, ttl⟩)
    case some.signed.env =>
      rw [names, decode?_mergeAt_key hes hreads hx rfl (by decide)
        fun sub hsub hdecode => KeyConfig.decode?_set_var hsub hdecode x]
      exact overridden?_of_isPlain rfl _ fun _ => rfl
    all_goals cases hused
  | fixedKey =>
    rcases auth with _ | (⟨url, timeout, ttl⟩ | ⟨name | key | ⟨url, field⟩, span, ttl⟩)
    case some.signed.fixed =>
      rw [names, decode?_mergeAt_key hes hreads hx rfl (by decide)
        fun sub hsub hdecode => KeyConfig.decode?_set_key hsub hdecode x]
      exact overridden?_of_isPlain rfl _ fun _ => rfl
    all_goals cases hused
  | keyUrl =>
    rcases auth with _ | (⟨url, timeout, ttl⟩ | ⟨name | key | ⟨url, field⟩, span, ttl⟩)
    case some.signed.http =>
      rw [names, decode?_mergeAt_key hes hreads hx rfl (by decide)
        fun sub hsub hdecode => (KeyConfig.decode?_set_http hsub hdecode x).1]
      exact overridden?_of_isPlain rfl _ fun _ => rfl
    all_goals cases hused
  | keyField =>
    rcases auth with _ | (⟨url, timeout, ttl⟩ | ⟨name | key | ⟨url, field⟩, span, ttl⟩)
    case some.signed.http =>
      rw [names, decode?_mergeAt_key hes hreads hx rfl (by decide)
        fun sub hsub hdecode => (KeyConfig.decode?_set_http hsub hdecode x).2]
      exact overridden?_of_isPlain rfl _ fun _ => rfl
    all_goals cases hused

/-- A flag, a number or a text in the place of a text that a configuration has. -/
theorem decode?_mergeAt (hes : Setting.Tidy (.table es)) (h : decode? (Setting.table es) = some c)
    (hused : (f.get? c).isSome) (hx : ∀ es, x ≠ .table es) :
    decode? (Setting.mergeAt x f.names (.table es)) =
      overridden? f c (Setting.isOpen f.names (.table es)) x := by
  have hreads := reads_of_decode? hes.keys h
  cases f with
  | listenAddr =>
    rw [names, Setting.mergeAt_singleton hx, Setting.isOpen_singleton]
    exact (decode?_set hes.keys hreads x).1
  | repositoryPath =>
    cases hr : c.repository with
    | http url secs => simp [TextField.get?, hr] at hused
    | file path =>
      rw [names, decode?_mergeAt_repository hes hreads hx (by decide) fun sub hsub hdecode =>
        RepositoryConfig.decode?_set_path hsub (hdecode.trans (congrArg some hr)) x]
      exact overridden?_of_isPlain rfl _ fun t => by rw [put, hr]
  | repositoryUrl =>
    cases hr : c.repository with
    | file path => simp [TextField.get?, hr] at hused
    | http url secs =>
      rw [names, decode?_mergeAt_repository hes hreads hx (by decide) fun sub hsub hdecode =>
        RepositoryConfig.decode?_set_url hsub (hdecode.trans (congrArg some hr)) x]
      exact overridden?_of_isPlain rfl _ fun t => by rw [put, hr]
  | interval =>
    rw [names, Setting.mergeAt_cons_table, Setting.isOpen_cons_table,
      (decode?_set hes.keys hreads _).2.2.1,
      Setting.decode_mergeAt_elim hx (hes.of_get? _) hreads.detector rfl
        fun sub d hsub hdecode => DetectorConfig.decode?_set_interval hsub hdecode x,
      overridden?_of_not_isPlain rfl, Option.map_map]
    cases (Assoc.get? "change_detector" es).all (Setting.isOpen ["interval"]) <;> rfl
  | authUrl | authTimeout | negativeTtl | refreshInterval | keyName | fixedKey | keyUrl
  | keyField => exact decode?_mergeAt_of_isAuth hes hreads hused hx rfl
  | drainTimeout =>
    rw [names, Setting.mergeAt_cons_table, Setting.isOpen_cons_table,
      (decode?_set hes.keys hreads _).2.2.2.2.1,
      Setting.decode_mergeAt_elim hx (hes.of_get? _) hreads.drainTimeout rfl
        fun sub t hsub _ => decodeDrain?_set hsub x,
      overridden?_of_not_isPlain rfl]
    cases (Assoc.get? "shutdown" es).all (Setting.isOpen ["drain_timeout"]) <;> rfl
  | level =>
    rw [names, Setting.mergeAt_cons_table, Setting.isOpen_cons_table,
      (decode?_set hes.keys hreads _).2.2.2.2.2,
      Setting.decode_mergeAt_elim hx (hes.of_get? _) hreads.logging rfl
        fun sub l hsub hdecode => LoggingConfig.decode?_set_level hsub hdecode x,
      overridden?_of_not_isPlain rfl, Option.map_map]
    cases (Assoc.get? "logging" es).all (Setting.isOpen ["level"]) <;> rfl

/-! ## Loading with an override -/

/-- The settings that are decoded, the environment's included. -/
def settings? (path : String) (contents : Option String) (env : Environment) : Option Setting :=
  match contents.bind fun s => readSettings? (Format.ofPath path) (withoutMark s) with
  | some (.table entries) =>
    some (Setting.overlay (overrides env) (Setting.overlay entries (.table [])))
  | _ => none

variable {path : String} {contents : Option String} {env : Environment}

theorem load_eq (path : String) (contents : Option String) (env : Environment) :
    load path contents env =
      match settings? path contents env with
      | some x => (decode? x).elim (.error .undecodable) .ok
      | none => .error .unreadable := by
  rw [load, settings?]
  cases contents.bind fun s => readSettings? (Format.ofPath path) (withoutMark s) with
  | none => rfl
  | some x =>
    cases x with
    | table entries =>
      dsimp only
      cases decode? (Setting.overlay (overrides env) (Setting.overlay entries (.table []))) <;> rfl
    | absent | flag | int | real | text | list => rfl

theorem exists_table (h : settings? path contents env = some x) :
    ∃ es, x = .table es ∧ Setting.Tidy (.table es) := by
  rw [settings?] at h
  split at h
  · next entries _ =>
    cases h
    obtain ⟨es, hes, htidy⟩ := Setting.exists_overlay .empty entries
    rw [hes]
    exact Setting.exists_overlay htidy (overrides env)
  · cases h

theorem settings?_append (f : TextField) (s : String) :
    settings? path contents (env ++ [(f.variableName, s)]) =
      (settings? path contents env).map (Setting.mergeAt (.ofText s) f.names) := by
  obtain ⟨k, hk, hpath⟩ := Option.map_eq_some_iff.mp f.pathOf_variableName
  have hoverrides : overrides (env ++ [(f.variableName, s)]) =
      overrides env ++ [(k, .ofText s)] := by
    simp [overrides, hk]
  rw [settings?, settings?, hoverrides]
  split
  · rw [Setting.overlay_append, Option.map_some, ← hpath]
    rfl
  · rfl

/-- Whether the sections on the way to a setting are given by names, as far as they are given. -/
def keyed (path : String) (contents : Option String) (env : Environment) (f : TextField) : Bool :=
  (settings? path contents env).any (·.isOpen f.names)

theorem load_append (h : load path contents env = .ok c) (hused : (f.get? c).isSome) (s : String) :
    load path contents (env ++ [(f.variableName, s)]) =
      (overridden? f c (keyed path contents env f) (.ofText s)).elim (.error .undecodable) .ok := by
  rw [load_eq] at h
  rw [load_eq, settings?_append, keyed]
  cases hsettings : settings? path contents env with
  | none =>
    rw [hsettings] at h
    cases h
  | some x =>
    rw [hsettings] at h
    obtain ⟨es, rfl, htidy⟩ := exists_table hsettings
    have hdecode : decode? (Setting.table es) = some c := by
      cases hc : decode? (Setting.table es) with
      | none =>
        simp only [hc, Option.elim_none] at h
        cases h
      | some c' =>
        simp only [hc, Option.elim_some, Except.ok.injEq] at h
        rw [h]
    simp only [Option.map_some, Option.any_some]
    rw [decode?_mergeAt htidy hdecode hused (Setting.ofText_ne_table s)]

theorem read?_of_not_isTyped {s : String} (h : ¬Setting.IsTyped s) :
    f.read? (.ofText s) = some s := by
  rcases Setting.ofText_cases s with ⟨-, htext⟩ | ⟨htyped, -⟩
  · rw [htext, read?, Setting.plain]
    cases f.isPlain <;> rfl
  · exact absurd htyped h

theorem read?_of_isTyped {s : String} (h : Setting.IsTyped s) (hplain : f.isPlain = true) :
    f.read? (.ofText s) = none := by
  rw [read?, if_pos hplain]
  rcases Setting.ofText_cases s with ⟨htyped, -⟩ | ⟨-, ⟨b, htext⟩ | ⟨n, htext⟩ | ⟨x, htext⟩⟩
  · exact absurd h htyped
  · rw [htext, Setting.plain]
    rfl
  · rw [htext, Setting.plain]
    rfl
  · rw [htext, Setting.plain]
    rfl

/-- What a variable does to the text that it names, in a configuration that can be loaded and has
the text. It is taken as it is, and changes nothing else, if it looks like neither a flag nor a
number and the sections on the way are not given as lists. Otherwise nothing can be loaded where the
section tells its kind by a tag; elsewhere the flag or number is written anew, and the rest of a
listed section is as if it were not given. -/
theorem load_overridden (h : load path contents env = .ok c) (hused : (f.get? c).isSome)
    (s : String) :
    (keyed path contents env f = true → ¬Setting.IsTyped s →
        load path contents (env ++ [(f.variableName, s)]) = .ok (f.put c s)) ∧
      (f.isPlain = true → keyed path contents env f = false ∨ Setting.IsTyped s →
        load path contents (env ++ [(f.variableName, s)]) = .error .undecodable) ∧
      (f.isPlain = false → ∃ t, (Setting.ofText s).text? = some t ∧
        load path contents (env ++ [(f.variableName, s)]) =
          .ok (f.put (if keyed path contents env f then c else f.reset c) t)) ∧
      ∀ g t, g.get? (f.put c t) = if g = f then some t else g.get? c := by
  rw [load_append h hused s]
  refine ⟨fun hkeyed htyped => ?_, fun hplain hrefused => ?_, fun hplain => ?_, fun g t => ?_⟩
  · rw [hkeyed, overridden?, if_pos rfl, read?_of_not_isTyped htyped]
    rfl
  · rcases hrefused with hkeyed | htyped
    · rw [hkeyed, overridden?, if_neg Bool.false_ne_true, if_pos hplain]
      rfl
    · rw [overridden?, read?_of_isTyped htyped hplain, if_pos hplain, Option.map_none, ite_self]
      rfl
  · obtain ⟨t, ht⟩ := Setting.exists_text?_ofText s
    refine ⟨t, ht, ?_⟩
    rw [overridden?_of_not_isPlain hplain, ht]
    rfl
  · obtain ⟨t', ht'⟩ := Option.isSome_iff_exists.mp hused
    rw [get?_put, ht', Option.map_some]

/-- A file with the repository only. -/
def fileSettings : String := "[repository]\ntype = \"file\"\npath = \"routes\"\n"

/-- A file that gives a section as a list. -/
def listedSettings : String := "logging = [\"debug\", false]\n" ++ fileSettings

theorem eq_ok_of_toOption {r : Except LoadFault Config} (h : r.toOption = some c) : r = .ok c := by
  cases r with
  | error fault => cases h
  | ok c' => exact congrArg Except.ok (Option.some.inj h)

theorem load_overridden_path :
    load "g.toml" (some fileSettings) [("SWITCHYARD__REPOSITORY__PATH", "/srv/routes")] =
      .ok (ofFiles "/srv/routes") := by
  have hload : load "g.toml" (some fileSettings) [] = .ok (ofFiles "routes") :=
    eq_ok_of_toOption (by decide +kernel)
  exact (load_overridden (f := .repositoryPath) hload rfl "/srv/routes").1 (by decide +kernel)
    (by decide +kernel)

/-- A name that looks like a number is refused in one section and written anew in another one, and
a section that is given as a list loses its other settings. -/
theorem override_not_verbatim :
    (load "g.toml" (some fileSettings) []).toOption = some (ofFiles "routes") ∧
      (load "g.toml" (some fileSettings) [("SWITCHYARD__REPOSITORY__PATH", "2024")]).toOption =
        none ∧
      (load "g.toml" (some fileSettings) [("SWITCHYARD__LOGGING__LEVEL", "007")]).toOption =
        some { ofFiles "routes" with logging := ⟨"7", true⟩ } ∧
      (load "g.toml" (some listedSettings) []).toOption =
        some { ofFiles "routes" with logging := ⟨"debug", false⟩ } ∧
      (load "g.toml" (some listedSettings) [("SWITCHYARD__LOGGING__LEVEL", "warn")]).toOption =
        some { ofFiles "routes" with logging := ⟨"warn", true⟩ } := by
  decide +kernel

end Config
end Gateway
