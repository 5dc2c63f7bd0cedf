import ExpenseLedger.Json.Fields
import ExpenseLedger.Settings

/-!
# Settings of the service

Where the service listens, which database and which remote cache it uses, and the settings of its
engine.
-/

namespace ExpenseLedger

/-- Where and how the service listens. -/
structure ServerSettings where
  /-- The address. -/
  host : String
  /-- The port. -/
  port : Nat
  /-- The number of workers. -/
  workers : Nat
  /-- The time for answering a request, in seconds. -/
  requestTimeout : Nat
deriving DecidableEq

/-- The database. -/
structure DatabaseSettings where
  /-- Its location. -/
  url : String
  /-- The greatest number of connections. -/
  maxConnections : Nat
  /-- The number of connections that are always kept. -/
  minConnections : Nat
  /-- Whether it is brought up to date at the start. -/
  runMigrations : Bool
deriving DecidableEq

/-- The settings of the service. -/
structure ServiceSettings where
  /-- Where and how the service listens. -/
  server : ServerSettings
  /-- The database. -/
  database : DatabaseSettings
  /-- The location of the remote cache. -/
  cacheUrl : String
  /-- The settings of the engine. -/
  engine : EngineSettings
deriving DecidableEq

/-! ## Checks -/

/-- What can be wrong with settings. -/
inductive SettingsFlaw where
  /-- The port is zero. -/
  | noPort
  /-- There are no workers. -/
  | noWorkers
  /-- There is no time for answering requests. -/
  | noRequestTimeout
  /-- The database has no location. -/
  | noDatabase
  /-- More connections are kept than there may be. -/
  | tooManyConnectionsKept
  /-- The remote cache has no location. -/
  | noRemoteCache
  /-- A setting of the engine is wrong. -/
  | engine (e : Error)
deriving DecidableEq

/-- What is told about a flaw. -/
def SettingsFlaw.message : SettingsFlaw → String
  | noPort => "Server port cannot be 0"
  | noWorkers => "At least one server worker is required"
  | noRequestTimeout => "Request timeout must be greater than 0"
  | noDatabase => "Database URL is required"
  | tooManyConnectionsKept => "Database min_connections cannot exceed max_connections"
  | noRemoteCache => "Redis URL is required"
  | engine e => e.message

/-- The first flaw of the settings. -/
def ServiceSettings.flaw? (s : ServiceSettings) : Option SettingsFlaw :=
  if s.server.port = 0 then some .noPort
  else if s.server.workers = 0 then some .noWorkers
  else if s.server.requestTimeout = 0 then some .noRequestTimeout
  else if s.database.url.isEmpty then some .noDatabase
  else if s.database.maxConnections < s.database.minConnections then some .tooManyConnectionsKept
  else if s.cacheUrl.isEmpty then some .noRemoteCache
  else
    match s.engine.check with
    | .ok _ => none
    | .error e => some (.engine e)

/-! ## Writing -/

/-- A number that may be missing. -/
def optionalNat : Option Nat → Json
  | none => Json.null
  | some n => Json.nat n

/-- The fields of the settings of the engine. -/
def EngineSettings.toJson (s : EngineSettings) : Json :=
  Json.record [("cache_update_timeout_ms", Json.nat s.cacheUpdateTimeout),
    ("populate_timeout_ms", Json.nat s.populateTimeout),
    ("balance_ttl_secs", optionalNat s.balanceLifetime)]

/-- The sections of the settings. -/
def ServiceSettings.toJson (s : ServiceSettings) : Json :=
  Json.record
    [("server", Json.record
        [("host", Json.text s.server.host), ("port", Json.nat s.server.port),
          ("workers", Json.nat s.server.workers),
          ("request_timeout_secs", Json.nat s.server.requestTimeout)]),
      ("database", Json.record
        [("url", Json.text s.database.url),
          ("max_connections", Json.nat s.database.maxConnections),
          ("min_connections", Json.nat s.database.minConnections),
          ("run_migrations", Json.bool s.database.runMigrations)]),
      ("redis", Json.record [("url", Json.text s.cacheUrl)]),
      ("engine", s.engine.toJson)]

end ExpenseLedger
