import ExpenseLedger.Error

/-!
# Settings of the engine

The deadlines of cache work, in milliseconds, and the lifetime of cache entries, in seconds.
-/

namespace ExpenseLedger

/-- The settings of the engine. -/
structure EngineSettings where
  /-- The time for updating one user's entry, and for dropping it. -/
  cacheUpdateTimeout : Nat
  /-- The time for filling an entry after a miss. -/
  populateTimeout : Nat
  /-- The lifetime of an entry. Without one an entry stays until it is dropped. -/
  balanceLifetime : Option Nat
deriving DecidableEq

namespace EngineSettings

/-- Half a second for cache work, and a day for entries. -/
def standard : EngineSettings := ⟨500, 500, some 86400⟩

/-- Refuses settings that are zero and must not be, for the first such setting. -/
def check (s : EngineSettings) : Except Error Unit :=
  if s.cacheUpdateTimeout = 0 then .error (.zeroSetting .cacheUpdateTimeout)
  else if s.populateTimeout = 0 then .error (.zeroSetting .populateTimeout)
  else if s.balanceLifetime = some 0 then .error (.zeroSetting .balanceLifetime)
  else .ok ()

end EngineSettings

end ExpenseLedger
