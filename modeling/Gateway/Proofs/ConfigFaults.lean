import Gateway.Config.Validation
import Mathlib.Data.List.Nodup
import Mathlib.Tactic.SplitIfs

/-! # Faults of configurations: what is reported is what is violated, once each and in one order -/
namespace Gateway
namespace Config
open Text

/-! ## What a check finds -/

/-- What is wrong with a text that is to be a length of time. -/
inductive IsBadDuration (raw : String) : Problem → Prop
  | unreadable {reason : Duration.Fault} (h : Duration.read raw = .error reason) :
      IsBadDuration raw (.badDuration raw reason)
  | zero {d : Duration} (h : Duration.read raw = .ok d) (hzero : d.isZero = true) :
      IsBadDuration raw .zeroDuration

/-- What is wrong with a text that is to be an address of the web. -/
inductive IsBadUrl (raw : String) : Problem → Prop
  | unreadable {reason : Url.Fault} (h : Url.read raw = .error reason) :
      IsBadUrl raw (.badUrl reason)
  | scheme {url : Url} (h : Url.read raw = .ok url) (hhttp : url.scheme ≠ "http")
      (hhttps : url.scheme ≠ "https") : IsBadUrl raw (.badScheme url.scheme)
  | host {url : Url} (h : Url.read raw = .ok url)
      (hscheme : url.scheme = "http" ∨ url.scheme = "https") (hhost : url.host = none) :
      IsBadUrl raw .noHost

theorem durationProblem?_eq_some_iff (raw : String) (p : Problem) :
    durationProblem? raw = some p ↔ IsBadDuration raw p := by
  rw [durationProblem?]
  constructor
  · intro h
    split at h
    next d hd =>
      split_ifs at h with hzero
      cases h
      exact .zero hd hzero
    next reason hreason =>
      cases h
      exact .unreadable hreason
  · rintro (h | ⟨h, hzero⟩)
    · rw [h]
    · rw [h]
      exact if_pos hzero

theorem urlProblem?_eq_some_iff (raw : String) (p : Problem) :
    urlProblem? raw = some p ↔ IsBadUrl raw p := by
  rw [urlProblem?]
  constructor
  · intro h
    split at h
    next reason hreason =>
      cases h
      exact .unreadable hreason
    next url hurl =>
      split_ifs at h with hscheme hhost
      · cases h
        rw [Bool.and_eq_true, decide_eq_true_eq, decide_eq_true_eq] at hscheme
        exact .scheme hurl hscheme.1 hscheme.2
      · cases h
        rw [Bool.and_eq_true, decide_eq_true_eq, decide_eq_true_eq, not_and_or, not_ne_iff,
          not_ne_iff] at hscheme
        exact .host hurl hscheme (Option.isNone_iff_eq_none.mp hhost)
  · rintro (h | ⟨h, hhttp, hhttps⟩ | ⟨h, hscheme, hhost⟩)
    · rw [h]
    · simp only [h, hhttp, hhttps, ne_eq, not_false_eq_true, decide_true, Bool.and_self, if_true]
    · rcases hscheme with hscheme | hscheme <;> simp [h, hscheme, hhost]

theorem mem_map_invalid_iff (field : String) (o : Option Problem) (f : Fault) :
    f ∈ (o.map (Fault.invalid field)).toList ↔ ∃ p, o = some p ∧ f = .invalid field p := by
  cases o <;> simp

theorem mem_checkDuration_iff (field raw : String) (f : Fault) :
    f ∈ checkDuration field raw ↔ ∃ p, IsBadDuration raw p ∧ f = .invalid field p := by
  simp only [checkDuration, mem_map_invalid_iff, durationProblem?_eq_some_iff]

theorem mem_checkUrl_iff (field raw : String) (f : Fault) :
    f ∈ checkUrl field raw ↔ ∃ p, IsBadUrl raw p ∧ f = .invalid field p := by
  simp only [checkUrl, mem_map_invalid_iff, urlProblem?_eq_some_iff]

theorem mem_checkPresent_iff (field value : String) (f : Fault) :
    f ∈ checkPresent field value ↔ allBlank value = true ∧ f = .missing field := by
  rw [checkPresent]
  split_ifs with h <;> simp [h]

/-! ## What a configuration violates -/

/-- The checks that a source of routes violates. -/
inductive RepositoryViolates : RepositoryConfig → Fault → Prop
  | path {path : String} (h : allBlank path = true) :
      RepositoryViolates (.file path) (.missing "repository.path")
  | url {url : String} {secs : Nat} {p : Problem} (h : IsBadUrl url p) :
      RepositoryViolates (.http url secs) (.invalid "repository.url" p)
  | timeout {url : String} :
      RepositoryViolates (.http url 0) (.invalid "repository.timeout_secs" .zero)

/-- The checks that a source of secrets violates. -/
inductive KeyViolates : KeyConfig → Fault → Prop
  | name {name : String} (h : allBlank name = true) :
      KeyViolates (.env name) (.missing "auth.key_source.var")
  | key : KeyViolates (.fixed "") (.missing "auth.key_source.key")
  | url {url field : String} {p : Problem} (h : IsBadUrl url p) :
      KeyViolates (.http url field) (.invalid "auth.key_source.url" p)
  | field {url field : String} (h : allBlank field = true) :
      KeyViolates (.http url field) (.missing "auth.key_source.field")

/-- The checks that a way of identifying callers violates. -/
inductive AuthViolates : AuthConfig → Fault → Prop
  | url {url timeout ttl : String} {p : Problem} (h : IsBadUrl url p) :
      AuthViolates (.remote url timeout ttl) (.invalid "auth.url" p)
  | timeout {url timeout ttl : String} {p : Problem} (h : IsBadDuration timeout p) :
      AuthViolates (.remote url timeout ttl) (.invalid "auth.timeout" p)
  | remoteTtl {url timeout ttl : String} {p : Problem} (h : IsBadDuration ttl p) :
      AuthViolates (.remote url timeout ttl) (.invalid "auth.negative_ttl" p)
  | key {key : KeyConfig} {interval ttl : String} {f : Fault} (h : KeyViolates key f) :
      AuthViolates (.signed key interval ttl) f
  | interval {key : KeyConfig} {interval ttl : String} {p : Problem}
      (h : IsBadDuration interval p) :
      AuthViolates (.signed key interval ttl) (.invalid "auth.refresh_interval" p)
  | signedTtl {key : KeyConfig} {interval ttl : String} {p : Problem} (h : IsBadDuration ttl p) :
      AuthViolates (.signed key interval ttl) (.invalid "auth.negative_ttl" p)

/-- The checks that a configuration violates, each by itself. -/
inductive Violates (c : Config) : Fault → Prop
  | listenAddress (h : Socket.read? c.listenAddr = none) : Violates c (.listenAddress c.listenAddr)
  | repository {f : Fault} (h : RepositoryViolates c.repository f) : Violates c f
  | interval {p : Problem} (h : IsBadDuration c.detector.interval p) :
      Violates c (.invalid "change_detector.interval" p)
  | capacity (h : c.detector.channelCapacity = 0) :
      Violates c (.invalid "change_detector.channel_capacity" .tooFew)
  | auth {auth : AuthConfig} {f : Fault} (hauth : c.auth = some auth) (h : AuthViolates auth f) :
      Violates c f
  | drainTimeout {p : Problem} (h : IsBadDuration c.drainTimeout p) :
      Violates c (.invalid "shutdown.drain_timeout" p)
  | level (h : allBlank c.logging.level = true) : Violates c (.missing "logging.level")

theorem mem_checkRepository_iff (r : RepositoryConfig) (f : Fault) :
    f ∈ checkRepository r ↔ RepositoryViolates r f := by
  cases r with
  | file path =>
    rw [checkRepository, mem_checkPresent_iff]
    constructor
    · rintro ⟨h, rfl⟩
      exact .path h
    · rintro ⟨h⟩
      exact ⟨h, rfl⟩
  | http url secs =>
    rw [checkRepository, List.mem_append, mem_checkUrl_iff]
    constructor
    · rintro (⟨p, h, rfl⟩ | h)
      · exact .url h
      · split_ifs at h with hsecs
        · subst hsecs
          cases List.mem_singleton.mp h
          exact .timeout
        · cases h
    · rintro (_ | h | _)
      · exact Or.inl ⟨_, h, rfl⟩
      · exact Or.inr (List.mem_singleton_self _)

theorem mem_checkKey_iff (k : KeyConfig) (f : Fault) : f ∈ checkKey k ↔ KeyViolates k f := by
  cases k with
  | env name =>
    rw [checkKey, mem_checkPresent_iff]
    constructor
    · rintro ⟨h, rfl⟩
      exact .name h
    · rintro ⟨h⟩
      exact ⟨h, rfl⟩
  | fixed key =>
    rw [checkKey]
    constructor
    · intro h
      split_ifs at h with hkey
      · cases List.mem_singleton.mp h
        rw [String.isEmpty_iff] at hkey
        exact hkey ▸ .key
      · cases h
    · rintro ⟨⟩
      exact List.mem_singleton_self _
  | http url field =>
    rw [checkKey, List.mem_append, mem_checkUrl_iff, mem_checkPresent_iff]
    constructor
    · rintro (⟨p, h, rfl⟩ | ⟨h, rfl⟩)
      · exact .url h
      · exact .field h
    · rintro (_ | _ | h | h)
      · exact Or.inl ⟨_, h, rfl⟩
      · exact Or.inr ⟨h, rfl⟩

theorem mem_checkAuth_iff (a : AuthConfig) (f : Fault) : f ∈ checkAuth a ↔ AuthViolates a f := by
  cases a with
  | remote url timeout ttl =>
    rw [checkAuth, List.mem_append, List.mem_append, mem_checkUrl_iff, mem_checkDuration_iff,
      mem_checkDuration_iff]
    constructor
    · rintro ((⟨p, h, rfl⟩ | ⟨p, h, rfl⟩) | ⟨p, h, rfl⟩)
      · exact .url h
      · exact .timeout h
      · exact .remoteTtl h
    · rintro (h | h | h)
      · exact Or.inl (Or.inl ⟨_, h, rfl⟩)
      · exact Or.inl (Or.inr ⟨_, h, rfl⟩)
      · exact Or.inr ⟨_, h, rfl⟩
  | signed key interval ttl =>
    rw [checkAuth, List.mem_append, List.mem_append, mem_checkKey_iff, mem_checkDuration_iff,
      mem_checkDuration_iff]
    constructor
    · rintro ((h | ⟨p, h, rfl⟩) | ⟨p, h, rfl⟩)
      · exact .key h
      · exact .interval h
      · exact .signedTtl h
    · rintro (_ | _ | _ | h | h | h)
      · exact Or.inl (Or.inl h)
      · exact Or.inl (Or.inr ⟨_, h, rfl⟩)
      · exact Or.inr ⟨_, h, rfl⟩

theorem mem_checkListenAddr_iff (address : String) (f : Fault) :
    f ∈ checkListenAddr address ↔ Socket.read? address = none ∧ f = .listenAddress address := by
  rw [checkListenAddr]
  cases Socket.read? address <;> simp

theorem mem_faults_iff_sections (c : Config) (f : Fault) : f ∈ c.faults ↔
    f ∈ checkListenAddr c.listenAddr ∨ f ∈ checkRepository c.repository ∨
      f ∈ checkDuration "change_detector.interval" c.detector.interval ∨
      (c.detector.channelCapacity = 0 ∧ f = .invalid "change_detector.channel_capacity" .tooFew) ∨
      (∃ auth, c.auth = some auth ∧ f ∈ checkAuth auth) ∨
      f ∈ checkDuration "shutdown.drain_timeout" c.drainTimeout ∨
      f ∈ checkPresent "logging.level" c.logging.level := by
  have hcapacity : f ∈ (if c.detector.channelCapacity = 0 then
      [Fault.invalid "change_detector.channel_capacity" .tooFew] else []) ↔
      c.detector.channelCapacity = 0 ∧ f = .invalid "change_detector.channel_capacity" .tooFew := by
    split_ifs with h <;> simp [h]
  rw [faults]
  simp only [List.mem_append, hcapacity, or_assoc]
  cases c.auth <;> simp

/-- What is reported is what is violated. -/
theorem mem_faults_iff (c : Config) (f : Fault) : f ∈ c.faults ↔ c.Violates f := by
  simp only [mem_faults_iff_sections, mem_checkListenAddr_iff, mem_checkRepository_iff,
    mem_checkDuration_iff, mem_checkPresent_iff, mem_checkAuth_iff]
  constructor
  · rintro (⟨h, rfl⟩ | h | ⟨p, h, rfl⟩ | ⟨h, rfl⟩ | ⟨auth, hauth, h⟩ | ⟨p, h, rfl⟩ | ⟨h, rfl⟩)
    · exact .listenAddress h
    · exact .repository h
    · exact .interval h
    · exact .capacity h
    · exact .auth hauth h
    · exact .drainTimeout h
    · exact .level h
  · rintro (h | h | h | h | ⟨hauth, h⟩ | h | h)
    · exact .inl ⟨h, rfl⟩
    · exact .inr (.inl h)
    · exact .inr (.inr (.inl ⟨_, h, rfl⟩))
    · exact .inr (.inr (.inr (.inl ⟨h, rfl⟩)))
    · exact .inr (.inr (.inr (.inr (.inl ⟨_, hauth, h⟩))))
    · exact .inr (.inr (.inr (.inr (.inr (.inl ⟨_, h, rfl⟩)))))
    · exact .inr (.inr (.inr (.inr (.inr (.inr ⟨h, rfl⟩)))))

/-! ## The order of a report -/

/-- The field that a fault is about. -/
def Fault.field : Fault → String
  | missing field | invalid field _ => field
  | listenAddress _ => "listen_addr"

/-- All fields that are checked, in the order of reports. No configuration has all of them. -/
def checkedFields : List String :=
  ["listen_addr", "repository.path", "repository.url", "repository.timeout_secs",
    "change_detector.interval", "change_detector.channel_capacity", "auth.url", "auth.timeout",
    "auth.key_source.var", "auth.key_source.key", "auth.key_source.url", "auth.key_source.field",
    "auth.refresh_interval", "auth.negative_ttl", "shutdown.drain_timeout", "logging.level"]

theorem fields_map_invalid (field : String) (o : Option Problem) :
    ((o.map (Fault.invalid field)).toList.map Fault.field).Sublist [field] := by
  cases o with
  | none => exact List.nil_sublist _
  | some p => exact List.Sublist.refl _

theorem fields_checkDuration (field raw : String) :
    ((checkDuration field raw).map Fault.field).Sublist [field] := fields_map_invalid field _

theorem fields_checkUrl (field raw : String) :
    ((checkUrl field raw).map Fault.field).Sublist [field] := fields_map_invalid field _

/-- A check that reports a fault of its field or nothing. -/
theorem fields_ite (f : Fault) (p : Prop) [Decidable p] :
    ((if p then [f] else []).map Fault.field).Sublist [f.field] := by
  split_ifs
  · exact List.Sublist.refl _
  · exact List.nil_sublist _

theorem fields_checkPresent (field value : String) :
    ((checkPresent field value).map Fault.field).Sublist [field] := fields_ite (.missing field) _

theorem fields_checkListenAddr (address : String) :
    ((checkListenAddr address).map Fault.field).Sublist ["listen_addr"] := by
  rw [checkListenAddr]
  split_ifs
  · exact List.nil_sublist _
  · exact List.Sublist.refl _

theorem fields_checkRepository (r : RepositoryConfig) :
    ((checkRepository r).map Fault.field).Sublist
      ["repository.path", "repository.url", "repository.timeout_secs"] := by
  cases r with
  | file path =>
    exact (fields_checkPresent _ path).trans (by decide)
  | http url secs =>
    rw [checkRepository, List.map_append]
    have hboth := (fields_checkUrl "repository.url" url).append
      (fields_ite (.invalid "repository.timeout_secs" .zero) (secs = 0))
    exact hboth.trans (by decide)

theorem fields_checkKey (k : KeyConfig) : ((checkKey k).map Fault.field).Sublist
    ["auth.key_source.var", "auth.key_source.key", "auth.key_source.url",
      "auth.key_source.field"] := by
  cases k with
  | env name => exact (fields_checkPresent _ name).trans (by decide)
  | fixed key => exact (fields_ite (.missing "auth.key_source.key") _).trans (by decide)
  | http url field =>
    rw [checkKey, List.map_append]
    have hboth := (fields_checkUrl "auth.key_source.url" url).append
      (fields_checkPresent "auth.key_source.field" field)
    exact hboth.trans (by decide)

theorem fields_checkAuth (a : AuthConfig) : ((checkAuth a).map Fault.field).Sublist
    ["auth.url", "auth.timeout", "auth.key_source.var", "auth.key_source.key",
      "auth.key_source.url", "auth.key_source.field", "auth.refresh_interval",
      "auth.negative_ttl"] := by
  cases a with
  | remote url timeout ttl =>
    rw [checkAuth, List.map_append, List.map_append]
    have hall := ((fields_checkUrl "auth.url" url).append
      (fields_checkDuration "auth.timeout" timeout)).append
      (fields_checkDuration "auth.negative_ttl" ttl)
    exact hall.trans (by decide)
  | signed key interval ttl =>
    rw [checkAuth, List.map_append, List.map_append]
    have hall := ((fields_checkKey key).append
      (fields_checkDuration "auth.refresh_interval" interval)).append
      (fields_checkDuration "auth.negative_ttl" ttl)
    exact hall.trans (by decide)

/-- The fields that are reported stand in the one order of all fields. -/
theorem fields_faults (c : Config) : (c.faults.map Fault.field).Sublist checkedFields := by
  have hbefore := (((fields_checkListenAddr c.listenAddr).append
    (fields_checkRepository c.repository)).append
    (fields_checkDuration "change_detector.interval" c.detector.interval)).append
    (fields_ite (.invalid "change_detector.channel_capacity" .tooFew)
      (c.detector.channelCapacity = 0))
  have hafter := (fields_checkDuration "shutdown.drain_timeout" c.drainTimeout).append
    (fields_checkPresent "logging.level" c.logging.level)
  rw [faults, List.append_assoc]
  simp only [List.map_append]
  cases c.auth with
  | none => exact ((hbefore.append (List.nil_sublist [])).append hafter).trans (by decide)
  | some auth => exact (hbefore.append (fields_checkAuth auth)).append hafter

/-! ## The text of a report -/

theorem numbered_eq (n : Nat) (fs : List Fault) : numbered n fs = String.join
    ((fs.zipIdx n).map fun f => "  " ++ toString f.2 ++ ". " ++ f.1.message ++ "\n") := by
  induction fs generalizing n with
  | nil => rfl
  | cons f fs ih =>
    rw [numbered, ih, List.zipIdx_cons, List.map_cons, String.join_cons]

/-- What is said about faults: one by itself, and several with their number and one to a line. -/
def report : List Fault → Option String
  | [] => none
  | [f] => some ("Validation failed: " ++ f.message)
  | fs => some ("Validation failed: " ++ ("Found " ++ toString fs.length ++
      " validation errors:\n" ++
      String.join ((fs.zipIdx 1).map fun f => "  " ++ toString f.2 ++ ". " ++ f.1.message ++ "\n")))

theorem complaint?_eq (c : Config) : c.complaint? = report c.faults := by
  rw [complaint?]
  cases c.faults with
  | nil => rfl
  | cons f fs =>
    cases fs with
    | nil => rfl
    | cons g fs => simp only [listing, report, numbered_eq]

theorem report_eq_none_iff (fs : List Fault) : report fs = none ↔ fs = [] := by
  rcases fs with _ | ⟨f, _ | ⟨g, fs⟩⟩ <;> simp [report]

/-! ## Lengths of time -/

/-- A length of time is the one that its text stands for, and not zero. -/
def Gives (raw : String) (d : Duration) : Prop := Duration.read raw = .ok d ∧ d.isZero = false

/-- A text without fault gives its length of time, whatever would be taken in its place. -/
theorem gives_durationOr {raw : String} (h : ∀ p, ¬IsBadDuration raw p) (fallback : Duration) :
    Gives raw (durationOr raw fallback) := by
  rw [Gives, durationOr]
  cases hread : Duration.read raw with
  | error reason => exact absurd (.unreadable hread) (h _)
  | ok d =>
    refine ⟨rfl, ?_⟩
    rw [Bool.eq_false_iff]
    exact fun hzero => h _ (.zero hread hzero)

/-- A report lists the violated checks and no others: none hides another, none is listed twice, and
they stand in one order. A configuration is accepted if it violates none, and then every length of
time that it gives is taken as it is written and is not zero, so that nothing else takes its
place. -/
theorem faults_exact (c : Config) :
    (∀ f, f ∈ c.faults ↔ c.Violates f) ∧
      (c.faults.map Fault.field).Sublist checkedFields ∧ (c.faults.map Fault.field).Nodup ∧
      c.complaint? = report c.faults ∧ (c.complaint? = none ↔ ∀ f, ¬c.Violates f) ∧
      (c.complaint? = none →
        Gives c.detector.interval c.interval ∧ Gives c.drainTimeout c.drainSpan ∧
        (∀ url timeout ttl, c.auth = some (.remote url timeout ttl) →
          Gives timeout (AuthConfig.remote url timeout ttl).callTimeout ∧
            Gives ttl (AuthConfig.remote url timeout ttl).negativeTtl) ∧
        ∀ key interval ttl, c.auth = some (.signed key interval ttl) →
          Gives interval (AuthConfig.signed key interval ttl).refreshInterval ∧
            Gives ttl (AuthConfig.signed key interval ttl).negativeTtl) := by
  have haccepted : c.complaint? = none ↔ ∀ f, ¬c.Violates f := by
    rw [complaint?_eq, report_eq_none_iff, List.eq_nil_iff_forall_not_mem]
    exact forall_congr' fun f => not_congr (c.mem_faults_iff f)
  have hordered := c.fields_faults
  refine ⟨c.mem_faults_iff, hordered, hordered.nodup (by decide), c.complaint?_eq, haccepted, ?_⟩
  intro hnone
  rw [haccepted] at hnone
  refine ⟨gives_durationOr (fun p h => hnone _ (.interval h)) _,
    gives_durationOr (fun p h => hnone _ (.drainTimeout h)) _, ?_, ?_⟩
  · intro url timeout ttl hauth
    exact ⟨gives_durationOr (fun p h => hnone _ (.auth hauth (.timeout h))) _,
      gives_durationOr (fun p h => hnone _ (.auth hauth (.remoteTtl h))) _⟩
  · intro key interval ttl hauth
    exact ⟨gives_durationOr (fun p h => hnone _ (.auth hauth (.interval h))) _,
      gives_durationOr (fun p h => hnone _ (.auth hauth (.signedTtl h))) _⟩

/-- Routes from files, and callers known by signatures. -/
def withSecret : Config :=
  { ofFiles "routes" with auth := some (.signed (.env "SECRET") "90s" "1h 30m") }

theorem faults_exact_withSecret :
    withSecret.complaint? = none ∧ Gives "30s" withSecret.interval ∧
      Gives "90s" (.ofSecs 90) ∧ Gives "1h 30m" (.ofSecs 5400) := by
  obtain ⟨-, -, -, -, -, hspans⟩ := faults_exact withSecret
  have haccepted : withSecret.complaint? = none := by decide +kernel
  obtain ⟨hinterval, -, -, hauth⟩ := hspans haccepted
  obtain ⟨hrefresh, httl⟩ := hauth _ _ _ rfl
  have hninety :
      (AuthConfig.signed (.env "SECRET") "90s" "1h 30m").refreshInterval = .ofSecs 90 := by
    decide +kernel
  have hlong : (AuthConfig.signed (.env "SECRET") "90s" "1h 30m").negativeTtl = .ofSecs 5400 := by
    decide +kernel
  rw [hninety] at hrefresh
  rw [hlong] at httl
  exact ⟨haccepted, hinterval, hrefresh, httl⟩

/-- Faults of five sections at once, two of them of one section. -/
example : (Config.faults ⟨"localhost", .http "ftp://[::1]" 0, ⟨"often", 0⟩,
    some (.remote "http://[::1]" "0s" "1m"), "30s", ⟨" ", true⟩⟩).map Fault.field =
      ["listen_addr", "repository.url", "repository.timeout_secs", "change_detector.interval",
        "change_detector.channel_capacity", "auth.timeout", "logging.level"] := by decide +kernel

end Config
end Gateway
