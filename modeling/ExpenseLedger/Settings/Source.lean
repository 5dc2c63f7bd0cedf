import ExpenseLedger.Settings.Service

/-!
# Reading settings

Settings are read from values of different strictness: from JSON, where each setting must have its
very type, and from layered values, which convert. A `SettingsSource` says how values are taken
apart; the settings are read in one way from all of them.
-/

namespace ExpenseLedger

/-- How values of a type are taken apart. -/
structure SettingsSource (V : Type) where
  /-- The values of named fields, of which a list must give at least so many. -/
  fields : Nat → List String → V → Option (List (Option V))
  /-- The text of a value. -/
  text : V → Option String
  /-- The natural number of a value, in a word of so many bits. -/
  natural : Nat → V → Option Nat
  /-- The natural number of a value that may be missing, in a word of 64 bits. -/
  optionalNatural : V → Option (Option Nat)
  /-- The truth value of a value. -/
  truth : V → Option Bool

namespace SettingsSource

variable {V : Type} (source : SettingsSource V)

/-- Reads a value that may be missing, and then is a default. -/
def orDefault {α : Type} (default : α) (read : V → Option α) : Option V → Option α
  | none => some default
  | some v => read v

/-- Reads the settings of the engine. Each of them has a default. -/
def engine (v : V) : Option EngineSettings := do
  match ← source.fields 0
      ["cache_update_timeout_ms", "populate_timeout_ms", "balance_ttl_secs"] v with
  | [update, populate, lifetime] =>
    let standard := EngineSettings.standard
    return ⟨← orDefault standard.cacheUpdateTimeout (source.natural 64) update,
      ← orDefault standard.populateTimeout (source.natural 64) populate,
      ← orDefault standard.balanceLifetime source.optionalNatural lifetime⟩
  | _ => none

/-- Reads where and how the service listens. -/
def server (v : V) : Option ServerSettings := do
  match ← source.fields 4 ["host", "port", "workers", "request_timeout_secs"] v with
  | [some host, some port, some workers, some timeout] =>
    return ⟨← source.text host, ← source.natural 16 port, ← source.natural 64 workers,
      ← source.natural 64 timeout⟩
  | _ => none

/-- Reads the settings of the database. -/
def database (v : V) : Option DatabaseSettings := do
  match ← source.fields 4 ["url", "max_connections", "min_connections", "run_migrations"] v with
  | [some url, some most, some least, some migrate] =>
    return ⟨← source.text url, ← source.natural 32 most, ← source.natural 32 least,
      ← source.truth migrate⟩
  | _ => none

/-- Reads the location of the remote cache. -/
def cacheUrl (v : V) : Option String := do
  match ← source.fields 1 ["url"] v with
  | [some url] => source.text url
  | _ => none

/-- Reads the settings of the service. Only the engine's may be missing. -/
def service (v : V) : Option ServiceSettings := do
  match ← source.fields 3 ["server", "database", "redis", "engine"] v with
  | [some server, some database, some cache, engine] =>
    return ⟨← source.server server, ← source.database database, ← source.cacheUrl cache,
      ← orDefault EngineSettings.standard source.engine engine⟩
  | _ => none

end SettingsSource

/-! ## JSON -/

namespace Json

/-- The values of named fields in an object, or in a list that gives at least so many of them. -/
def fieldsFrom? (least : Nat) (names : List String) : Json → Option (List (Option Json))
  | list items =>
    if least ≤ items.length ∧ items.length ≤ names.length then
      some (items.map some ++ List.replicate (names.length - items.length) none)
    else none
  | object members => fieldsOfObject? names members
  | _ => none

/-- The natural number of a word of so many bits. -/
def natural? (bits : Nat) (j : Json) : Option Nat :=
  (j.intBetween? 0 (Nat.pow 2 bits - 1 : Nat)).map Int.toNat

/-- Settings are read from JSON without any conversion. -/
def settings : SettingsSource Json where
  fields := fieldsFrom?
  text := toText?
  natural := natural?
  optionalNatural
    | null => some none
    | j => (natural? 64 j).map some
  truth
    | bool b => some b
    | _ => none

end Json

end ExpenseLedger
