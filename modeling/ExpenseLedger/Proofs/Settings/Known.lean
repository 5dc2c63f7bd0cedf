import ExpenseLedger.Proofs.Settings.Tables
import ExpenseLedger.Settings.Environment
/-!
# The settings that are known

Twelve settings are known, each by a section and a name, and each is read from its value by a
conversion of its own. Main statements:

* `SettingValue.service_eq_some_iff`: the settings are read one by one, whatever the others are;
* `Layer.valueOf?_over`: a layer of settings gives each of them the value that it sets last.
-/

namespace ExpenseLedger

/-! ## Settings -/

/-- The settings of the service. -/
inductive Setting where
  /-- The address. -/
  | host
  /-- The port. -/
  | port
  /-- The number of workers. -/
  | workers
  /-- The time for answering a request. -/
  | requestTimeout
  /-- The location of the database. -/
  | databaseUrl
  /-- The greatest number of connections. -/
  | maxConnections
  /-- The number of connections that are always kept. -/
  | minConnections
  /-- Whether the database is brought up to date. -/
  | runMigrations
  /-- The location of the remote cache. -/
  | cacheUrl
  /-- The time for updating an entry. -/
  | cacheUpdateTimeout
  /-- The time for filling an entry. -/
  | populateTimeout
  /-- The lifetime of an entry. -/
  | balanceLifetime
deriving DecidableEq

namespace Setting

/-- The section of a setting. -/
def sectionName : Setting → String
  | host | port | workers | requestTimeout => "server"
  | databaseUrl | maxConnections | minConnections | runMigrations => "database"
  | cacheUrl => "redis"
  | cacheUpdateTimeout | populateTimeout | balanceLifetime => "engine"

/-- The name of a setting in its section. -/
def name : Setting → String
  | host => "host"
  | port => "port"
  | workers => "workers"
  | requestTimeout => "request_timeout_secs"
  | databaseUrl => "url"
  | maxConnections => "max_connections"
  | minConnections => "min_connections"
  | runMigrations => "run_migrations"
  | cacheUrl => "url"
  | cacheUpdateTimeout => "cache_update_timeout_ms"
  | populateTimeout => "populate_timeout_ms"
  | balanceLifetime => "balance_ttl_secs"

/-- The key of a setting. -/
def key (s : Setting) : String := s.sectionName ++ "." ++ s.name

/-- The values of a setting. -/
abbrev Value : Setting → Type
  | host | databaseUrl | cacheUrl => String
  | runMigrations => Bool
  | balanceLifetime => Option Nat
  | _ => Nat

/-- The value of a setting in the settings of the service. -/
def get (c : ServiceSettings) : (s : Setting) → s.Value
  | host => c.server.host
  | port => c.server.port
  | workers => c.server.workers
  | requestTimeout => c.server.requestTimeout
  | databaseUrl => c.database.url
  | maxConnections => c.database.maxConnections
  | minConnections => c.database.minConnections
  | runMigrations => c.database.runMigrations
  | cacheUrl => c.cacheUrl
  | cacheUpdateTimeout => c.engine.cacheUpdateTimeout
  | populateTimeout => c.engine.populateTimeout
  | balanceLifetime => c.engine.balanceLifetime

/-- Converts a value to one of a setting. -/
def convert (v : SettingValue) : (s : Setting) → Option s.Value
  | host | databaseUrl | cacheUrl => v.text?
  | port => v.natural? 16
  | workers | requestTimeout | cacheUpdateTimeout | populateTimeout => v.natural? 64
  | maxConnections | minConnections => v.natural? 32
  | runMigrations => v.truth?
  | balanceLifetime => v.optionalNatural?

/-- The key of a setting is a path to its name in its section. -/
theorem ofKey_key (s : Setting) : PathStep.ofKey s.key = [.name s.sectionName, .name s.name] := by
  cases s <;> rfl

/-- The section of a setting is a path of one name. -/
theorem ofKey_sectionName (s : Setting) :
    PathStep.ofKey s.sectionName = [.name s.sectionName] := by
  cases s <;> rfl

/-- Settings are told by their keys. -/
theorem key_eq_iff (s t : Setting) :
    s.key = t.key ↔ s.sectionName = t.sectionName ∧ s.name = t.name := by
  constructor
  · intro h
    have hpath := s.ofKey_key
    rw [h, t.ofKey_key] at hpath
    injection hpath with hsection hrest
    injection hrest with hname
    injection hsection with hsection
    injection hname with hname
    exact ⟨hsection.symm, hname.symm⟩
  · rintro ⟨hsection, hname⟩
    unfold key
    rw [hsection, hname]

end Setting

/-! ## Reading settings -/

namespace SettingValue

/-- The value of a setting in a table of tables. -/
def valueOf? (root : SettingValue) (s : Setting) : Option SettingValue :=
  valueAt? root s.sectionName s.name

/-- The fields of a table. -/
theorem fields_table (least : Nat) (names : List String) (fs : List (String × SettingValue)) :
    settings.fields least names (table fs) = some (names.map fun n => find n fs) := rfl

section Sections

variable (fs : List (String × SettingValue))

/-- Where and how the service listens. -/
theorem server_eq_some_iff (host port workers timeout : SettingValue)
    (hhost : find "host" fs = some host) (hport : find "port" fs = some port)
    (hworkers : find "workers" fs = some workers)
    (htimeout : find "request_timeout_secs" fs = some timeout) (c : ServerSettings) :
    settings.server (table fs) = some c ↔ host.text? = some c.host ∧
      port.natural? 16 = some c.port ∧ workers.natural? 64 = some c.workers ∧
      timeout.natural? 64 = some c.requestTimeout := by
  obtain ⟨h, p, w, t⟩ := c
  unfold SettingsSource.server
  rw [fields_table]
  simp only [List.map_cons, List.map_nil, hhost, hport, hworkers, htimeout]
  simp only [Option.bind_eq_bind, Option.bind_some, Option.bind_eq_some_iff, Option.pure_def,
    Option.some.injEq, ServerSettings.mk.injEq]
  constructor
  · rintro ⟨_, hh, _, hp, _, hw, _, ht, rfl, rfl, rfl, rfl⟩
    exact ⟨hh, hp, hw, ht⟩
  · rintro ⟨hh, hp, hw, ht⟩
    exact ⟨h, hh, p, hp, w, hw, t, ht, rfl, rfl, rfl, rfl⟩

/-- The database. -/
theorem database_eq_some_iff (url most least migrate : SettingValue)
    (hurl : find "url" fs = some url) (hmost : find "max_connections" fs = some most)
    (hleast : find "min_connections" fs = some least)
    (hmigrate : find "run_migrations" fs = some migrate) (c : DatabaseSettings) :
    settings.database (table fs) = some c ↔ url.text? = some c.url ∧
      most.natural? 32 = some c.maxConnections ∧ least.natural? 32 = some c.minConnections ∧
      migrate.truth? = some c.runMigrations := by
  obtain ⟨u, m, l, r⟩ := c
  unfold SettingsSource.database
  rw [fields_table]
  simp only [List.map_cons, List.map_nil, hurl, hmost, hleast, hmigrate]
  simp only [Option.bind_eq_bind, Option.bind_some, Option.bind_eq_some_iff, Option.pure_def,
    Option.some.injEq, DatabaseSettings.mk.injEq]
  constructor
  · rintro ⟨_, hu, _, hm, _, hl, _, hr, rfl, rfl, rfl, rfl⟩
    exact ⟨hu, hm, hl, hr⟩
  · rintro ⟨hu, hm, hl, hr⟩
    exact ⟨u, hu, m, hm, l, hl, r, hr, rfl, rfl, rfl, rfl⟩

/-- The remote cache. -/
theorem cacheUrl_eq_some_iff (url : SettingValue) (hurl : find "url" fs = some url) (c : String) :
    settings.cacheUrl (table fs) = some c ↔ url.text? = some c := by
  unfold SettingsSource.cacheUrl
  rw [fields_table]
  simp only [List.map_cons, List.map_nil, hurl]
  exact Iff.rfl

/-- The engine. -/
theorem engine_eq_some_iff (update populate lifetime : SettingValue)
    (hupdate : find "cache_update_timeout_ms" fs = some update)
    (hpopulate : find "populate_timeout_ms" fs = some populate)
    (hlifetime : find "balance_ttl_secs" fs = some lifetime) (c : EngineSettings) :
    settings.engine (table fs) = some c ↔ update.natural? 64 = some c.cacheUpdateTimeout ∧
      populate.natural? 64 = some c.populateTimeout ∧
      lifetime.optionalNatural? = some c.balanceLifetime := by
  obtain ⟨u, p, l⟩ := c
  unfold SettingsSource.engine
  rw [fields_table]
  simp only [List.map_cons, List.map_nil, hupdate, hpopulate, hlifetime]
  simp only [Option.bind_eq_bind, Option.bind_some, Option.bind_eq_some_iff, Option.pure_def,
    Option.some.injEq, EngineSettings.mk.injEq, SettingsSource.orDefault]
  constructor
  · rintro ⟨_, hu, _, hp, _, hl, rfl, rfl, rfl⟩
    exact ⟨hu, hp, hl⟩
  · rintro ⟨hu, hp, hl⟩
    exact ⟨u, hu, p, hp, l, hl, rfl, rfl, rfl⟩

/-- The settings are read section by section. -/
theorem service_table_eq_some_iff (server database cache engine : SettingValue)
    (hserver : find "server" fs = some server) (hdatabase : find "database" fs = some database)
    (hcache : find "redis" fs = some cache) (hengine : find "engine" fs = some engine)
    (c : ServiceSettings) :
    settings.service (table fs) = some c ↔ settings.server server = some c.server ∧
      settings.database database = some c.database ∧ settings.cacheUrl cache = some c.cacheUrl ∧
      settings.engine engine = some c.engine := by
  obtain ⟨s, d, u, e⟩ := c
  unfold SettingsSource.service
  rw [fields_table]
  simp only [List.map_cons, List.map_nil, hserver, hdatabase, hcache, hengine]
  simp only [Option.bind_eq_bind, Option.bind_some, Option.bind_eq_some_iff, Option.pure_def,
    Option.some.injEq, ServiceSettings.mk.injEq, SettingsSource.orDefault]
  constructor
  · rintro ⟨_, hs, _, hd, _, hu, _, he, rfl, rfl, rfl, rfl⟩
    exact ⟨hs, hd, hu, he⟩
  · rintro ⟨hs, hd, hu, he⟩
    exact ⟨s, hs, d, hd, u, hu, e, he, rfl, rfl, rfl, rfl⟩

end Sections

/-- **The settings are read from a table of tables with values for all of them by converting each of
the values**, and so each independently of the others. -/
theorem service_eq_some_iff (root : SettingValue) (hroot : root.IsSectioned)
    (value : Setting → SettingValue) (hvalue : ∀ s, root.valueOf? s = some (value s))
    (c : ServiceSettings) :
    settings.service root = some c ↔ ∀ s : Setting, s.convert (value s) = some (s.get c) := by
  obtain ⟨es, rfl, hes⟩ := hroot
  have hsections (s : Setting) : ∃ fs, find s.sectionName es = some (table fs) ∧
      ∀ t : Setting, t.sectionName = s.sectionName → find t.name fs = some (value t) := by
    obtain ⟨w, hw, -⟩ := Option.bind_eq_some_iff.1 (hvalue s)
    obtain ⟨fs, rfl⟩ := hes s.sectionName w hw
    refine ⟨fs, hw, fun t ht => ?_⟩
    obtain ⟨w', hw', hv⟩ := Option.bind_eq_some_iff.1 (hvalue t)
    rw [ht] at hw'
    have hsame : some (table fs) = some w' := hw.symm.trans hw'
    cases hsame
    exact hv
  obtain ⟨server, hserver, hserverValues⟩ := hsections .host
  obtain ⟨database, hdatabase, hdatabaseValues⟩ := hsections .databaseUrl
  obtain ⟨cache, hcache, hcacheValues⟩ := hsections .cacheUrl
  obtain ⟨engine, hengine, hengineValues⟩ := hsections .balanceLifetime
  rw [service_table_eq_some_iff es _ _ _ _ hserver hdatabase hcache hengine,
    server_eq_some_iff server _ _ _ _ (hserverValues .host rfl) (hserverValues .port rfl)
      (hserverValues .workers rfl) (hserverValues .requestTimeout rfl),
    database_eq_some_iff database _ _ _ _ (hdatabaseValues .databaseUrl rfl)
      (hdatabaseValues .maxConnections rfl) (hdatabaseValues .minConnections rfl)
      (hdatabaseValues .runMigrations rfl),
    cacheUrl_eq_some_iff cache _ (hcacheValues .cacheUrl rfl),
    engine_eq_some_iff engine _ _ _ (hengineValues .cacheUpdateTimeout rfl)
      (hengineValues .populateTimeout rfl) (hengineValues .balanceLifetime rfl)]
  constructor
  · rintro ⟨⟨hh, hp, hw, ht⟩, ⟨hu, hm, hl, hr⟩, hc, hup, hpo, hli⟩ s
    cases s with
    | host => exact hh
    | port => exact hp
    | workers => exact hw
    | requestTimeout => exact ht
    | databaseUrl => exact hu
    | maxConnections => exact hm
    | minConnections => exact hl
    | runMigrations => exact hr
    | cacheUrl => exact hc
    | cacheUpdateTimeout => exact hup
    | populateTimeout => exact hpo
    | balanceLifetime => exact hli
  · intro h
    exact ⟨⟨h .host, h .port, h .workers, h .requestTimeout⟩,
      ⟨h .databaseUrl, h .maxConnections, h .minConnections, h .runMigrations⟩, h .cacheUrl,
      h .cacheUpdateTimeout, h .populateTimeout, h .balanceLifetime⟩

end SettingValue

/-! ## Layers of settings -/

/-- The value that a layer assigns to a key last. -/
def Layer.last? (key : String) : Layer → Option SettingValue
  | [] => none
  | a :: rest => (last? key rest).or (if a.1 = key then some a.2 else none)

/-- **Laying a layer of settings over a table of tables gives each setting the value that the layer
assigns to it last**, if it assigns one. -/
theorem Layer.valueOf?_over {root : SettingValue} (hroot : root.IsSectioned) (layer : Layer)
    (hlayer : ∀ a ∈ layer, (∃ s : Setting, a.1 = s.key) ∧ a.2.IsPlain) :
    (Layer.over root layer).IsSectioned ∧ ∀ s : Setting,
      (Layer.over root layer).valueOf? s = (layer.last? s.key).or (root.valueOf? s) := by
  induction layer generalizing root with
  | nil => exact ⟨hroot, fun s => rfl⟩
  | cons a rest ih =>
    obtain ⟨⟨t, ht⟩, hplain⟩ := hlayer a List.mem_cons_self
    obtain ⟨hnext, hvalues⟩ :=
      SettingValue.valueAt?_assign hroot t.sectionName t.name a.2 hplain
    have hover : Layer.over root (a :: rest) =
        Layer.over (SettingValue.assign a.2 [.name t.sectionName, .name t.name] root) rest := by
      rw [← t.ofKey_key, ← ht]
      rfl
    obtain ⟨hsectioned, hrest⟩ := ih hnext fun b hb => hlayer b (List.mem_cons_of_mem _ hb)
    rw [hover]
    refine ⟨hsectioned, fun s => ?_⟩
    rw [hrest s, last?, ht, Option.or_assoc]
    congr 1
    change SettingValue.valueAt? _ s.sectionName s.name = _
    rw [hvalues]
    by_cases hs : t.key = s.key
    · obtain ⟨hsection, hname⟩ := (t.key_eq_iff s).1 hs
      rw [if_pos hs, if_pos ⟨hsection.symm, hname.symm⟩]
      rfl
    · rw [if_neg hs, if_neg fun h => hs ((t.key_eq_iff s).2 ⟨h.1.symm, h.2.symm⟩)]
      rfl

end ExpenseLedger
